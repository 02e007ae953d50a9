import Mathlib.Data.List.Nodup
import SchemaTypings.Proofs.EntryPoints
import SchemaTypings.Proofs.WrittenFiles
import SchemaTypings.Proofs.WrittenValues

/-!
# Configurations that are saved

A saved configuration lists each option under its normal key. Read back over the defaults of its
language it sets every option to what it was, so it is the configuration that was saved. There is less
room for levels where a file is read than where it is written, and what is in between is lost.
-/

open SchemaTypings.Outcome

namespace SchemaTypings

/-! ## All options under their keys -/

namespace Options

theorem keys_toPairs (o : Options) :
    Table.keys (o.toPairs OptionName.all) = OptionName.all.map OptionName.key := by
  rw [Table.keys, toPairs, List.map_map]
  rfl

theorem normalKeys_toPairs (o : Options) : NormalKeys (o.toPairs OptionName.all) := by
  constructor
  · rw [keys_toPairs]
    exact List.Nodup.map (fun p q => OptionName.key_injective p q) (by decide)
  · intro key hkey
    rw [keys_toPairs] at hkey
    obtain ⟨name, _, rfl⟩ := List.mem_map.mp hkey
    exact name.optionKey_key

theorem get?_toPairs (o : Options) (name : OptionName) :
    Table.get? (o.toPairs OptionName.all) name.key = some (o name) :=
  (Table.get?_eq_some_iff (normalKeys_toPairs o).distinct).mpr
    (List.mem_map.mpr ⟨name, name.mem_all, rfl⟩)

theorem ofTable_toPairs (o : Options) : ofTable (o.toPairs OptionName.all) = o := by
  funext name
  rw [ofTable, get?_toPairs]
  rfl

end Options

/-! ## Reading over the defaults -/

theorem TypesConfig.options_of_ofOptions {o : Options} {c : TypesConfig} {room : Room}
    (h : ofOptions o room = .ok c) : c.options = o := by
  unfold ofOptions at h
  split at h
  · exact congrArg TypesConfig.options (Except.ok.inj h).symm
  · cases h

namespace ConfigStore

theorem knows_of_mem_merged {o : Options} {key : String}
    (h : key ∈ Table.keys (Table.putAll builtinOptions.defaults (o.toPairs OptionName.all))) :
    ConfigClass.knows .types key = true := by
  have hdefaults : ∀ key ∈ Table.keys builtinOptions.defaults,
      ConfigClass.knows .types key = true := by
    decide
  rcases (Table.mem_keys_putAll ..).mp h with h | h
  · exact hdefaults key h
  · rw [Options.keys_toPairs] at h
    obtain ⟨name, hname, rfl⟩ := List.mem_map.mp h
    exact List.any_eq_true.mpr ⟨name, hname, decide_eq_true rfl⟩

theorem ofValue_object (t : Table String Value) (room : Room) :
    Config.ofValue .types (.object t) room =
      ((Config.unknownKeys .types t).map Config.unknownKeyWarning,
        (TypesConfig.ofOptions (Options.ofTable (normalizeKeys t)) room).map .types) := rfl

theorem ofValue_merged {c : TypesConfig} {room : Room}
    (h : TypesConfig.ofOptions c.options room = .ok c) :
    Config.ofValue .types
      (.object (Table.putAll builtinOptions.defaults (c.options.toPairs OptionName.all))) room =
        ([], .ok (.types c)) := by
  have hnormal := Options.normalKeys_toPairs c.options
  have hmerged := normalKeys_builtin.putAll hnormal
  have hunknown : Config.unknownKeys .types
      (Table.putAll builtinOptions.defaults (c.options.toPairs OptionName.all)) = [] := by
    rw [Config.unknownKeys, hmerged.normalizeKeys, List.filter_eq_nil_iff]
    intro key hkey
    rw [knows_of_mem_merged hkey]
    decide
  rw [ofValue_object, hunknown, hmerged.normalizeKeys,
    Options.ofTable_putAll ofTable_builtin hnormal.distinct, Options.ofTable_toPairs, h]
  rfl

theorem exists_types_of_config {folder : Folder} {custom : Value} {file : String} {c : Config}
    {room : Room} (h : (builtin.config folder "typescript" custom file room).2 = .ok c) :
    ∃ t, c = .types t ∧ TypesConfig.ofOptions t.options room = .ok t := by
  rw [config_eq_merged] at h
  split at h
  · cases h
  · obtain ⟨t, ht, rfl⟩ := map_eq_ok.mp h
    exact ⟨t, rfl, TypesConfig.options_of_ofOptions ht ▸ ht⟩

/-! ## Reading a file -/

variable {folder : Folder} {file : String} {room : Room}

theorem readFile_eq {text : String} {pairs : List (String × Value)} {depth : Nat}
    (hfind : folder.find (Path.ofString file) = .ok (.file text))
    (hsuffix : (Path.ofString file).suffix = ".json")
    (hread : Json.read text room = Json.reading depth room.read (.object pairs)) :
    readFile folder file room =
      if depth ≤ room.read then .ok pairs else .error (.limit .levels) := by
  simp only [readFile, hfind, hsuffix, Except.mapError, ok_bind, Folder.textOf, hread,
    Json.reading]
  by_cases hdepth : depth ≤ room.read
  · rw [if_pos hdepth, if_pos hdepth]
    rfl
  · rw [if_neg hdepth, if_neg hdepth]
    rfl

theorem readFile_notJson {entry : Entry} (hfind : folder.find (Path.ofString file) = .ok entry)
    (hsuffix : (Path.ofString file).suffix ≠ ".json") :
    readFile folder file room = .error (.fileNotJson (Path.ofString file).text) := by
  simp only [readFile, hfind, Except.mapError, ok_bind, if_pos hsuffix]
  rfl

theorem merged_file (hfile : file ≠ "") :
    merged builtinOptions folder .null file room = (readFile folder file room).map fun pairs =>
      Table.putAll builtinOptions.defaults (normalizeKeys pairs) := by
  have hempty : file.isEmpty = false := by simpa using hfile
  unfold merged
  rw [hempty, if_neg Bool.false_ne_true]
  cases readFile folder file room <;> rfl

theorem config_eq_of_readFile {c : TypesConfig} (hfile : file ≠ "")
    (hread : readFile folder file room = .ok (c.options.toPairs OptionName.all))
    (hconfig : TypesConfig.ofOptions c.options room = .ok c) :
    builtin.config folder "typescript" .null file room = ([], .ok (.types c)) := by
  have hnormal := Options.normalKeys_toPairs c.options
  rw [config_eq_merged, merged_file hfile, hread, Except.map, hnormal.normalizeKeys]
  exact ofValue_merged hconfig

theorem config_eq_error {e : ConfigError} (hfile : file ≠ "")
    (hread : readFile folder file room = .error e) :
    builtin.config folder "typescript" .null file room = ([], .error e) := by
  rw [config_eq_merged, merged_file hfile, hread]
  rfl

end ConfigStore

/-! ## Saving -/

/-- Saving fails for what is wrong with the file, or for the limits of writing. -/
theorem Config.save_eq_ok {c : Config} {folder saved : Folder} {file : String} {room : Room} :
    c.save folder file room = .ok saved ↔ folder.write (Path.ofString file) c.text = .ok saved ∧
      (Value.object c.toPairs).limit? (some room.written) = none := by
  have hdump : Json.dump (.object c.toPairs) room = .ok c.text ↔
      (Value.object c.toPairs).limit? (some room.written) = none :=
    Json.dump_eq_ok.trans (and_iff_left rfl)
  rw [← hdump]
  constructor
  · intro h
    obtain ⟨written, hwrite, hrest⟩ := bind_eq_ok.mp h
    obtain ⟨text, hdump, hsaved⟩ := bind_eq_ok.mp hrest
    rw [mapError_eq_ok] at hwrite hdump
    obtain rfl : written = saved := pure_eq_ok.mp hsaved
    obtain rfl : text = c.text := (Json.dump_eq_ok.mp hdump).2
    exact ⟨hwrite, hdump⟩
  · rintro ⟨hwrite, hdump⟩
    exact bind_eq_ok.mpr ⟨saved, mapError_eq_ok.mpr hwrite,
      bind_eq_ok.mpr ⟨c.text, mapError_eq_ok.mpr hdump, rfl⟩⟩

theorem storable_default (name : OptionName) : name.default.Storable := by
  cases name <;> first
    | exact .null
    | exact .bool _
    | exact .text _
    | exact .object (by decide) nofun

theorem storable_of_config {folder : Folder} {pairs : List (String × Value)} {c : Config}
    (hpairs : ∀ p ∈ pairs, p.2.Storable)
    (h : (ConfigStore.builtin.config folder "typescript" (.object pairs)).2 = .ok c) :
    ∀ p ∈ c.toPairs, p.2.Storable := by
  rw [ConfigStore.config_builtin, map_eq_ok] at h
  obtain ⟨t, ht, rfl⟩ := h
  have hoptions := TypesConfig.options_of_ofOptions ht
  intro p hp
  obtain ⟨name, _, rfl⟩ := List.mem_map.mp hp
  rw [hoptions, Options.ofTable]
  cases hvalue : Table.get? (normalizeKeys pairs) name.key with
  | none => exact storable_default name
  | some v =>
    rcases Table.mem_of_mem_putAll (Table.mem_of_get? hvalue) with hmem | hmem
    · cases hmem
    · obtain ⟨q, hq, heq⟩ := List.mem_map.mp hmem
      rw [← (Prod.mk.inj heq).2]
      exact hpairs q hq

section

variable {folder₀ folder saved : Folder} {custom : Value} {file₀ file : String} {c : Config}
  {room : Room}

theorem find_of_save (hsave : c.save folder file room = .ok saved)
    (hjson : ".json".toList <:+ file.toList) :
    saved.find (Path.ofString file) = .ok (.file c.text) := by
  obtain ⟨names, last, hparts⟩ := Path.exists_parts_of_suffix (by decide) (by decide) hjson
  have hlast : String.ofList (last ++ ".json".toList) ∉ ["..", "null"] := by
    intro hmem
    rcases List.mem_pair.mp hmem with h | h
    · exact Text.ofList_append_ne (by decide) last h
    · exact Text.ofList_append_ne (by decide) last h
  exact Folder.find_of_write hparts hlast (Config.save_eq_ok.mp hsave).1

theorem read_saved
    (hconfig : (ConfigStore.builtin.config folder₀ "typescript" custom file₀ room).2 = .ok c)
    (hvalues : ∀ p ∈ c.toPairs, p.2.Storable) (hsave : c.save folder file room = .ok saved) :
    Json.read c.text room =
      Json.reading (Value.object c.toPairs).depth room.read (.object c.toPairs) := by
  obtain ⟨t, rfl, _⟩ := ConfigStore.exists_types_of_config hconfig
  have hstorable : (Value.object (Config.types t).toPairs).Storable :=
    .object (Options.normalKeys_toPairs t.options).distinct hvalues
  exact Json.read_of_dump hstorable (Json.dump_eq_ok.mpr ⟨(Config.save_eq_ok.mp hsave).2, rfl⟩)

/-- Values that were written are lost where they are deeper than can be read. -/
theorem reload
    (hconfig : (ConfigStore.builtin.config folder₀ "typescript" custom file₀ room).2 = .ok c)
    (hvalues : ∀ p ∈ c.toPairs, p.2.Storable) (hsave : c.save folder file room = .ok saved)
    (hjson : ".json".toList <:+ file.toList) (hname : (Path.ofString file).fileName ≠ ".json") :
    ConfigStore.builtin.config saved "typescript" .null file room =
      ([], if (Value.object c.toPairs).depth ≤ room.read then .ok c
        else .error (.limit .levels)) := by
  have hread := ConfigStore.readFile_eq (find_of_save hsave hjson)
    (Path.suffix_of_json hjson hname) (read_saved hconfig hvalues hsave)
  obtain ⟨t, rfl, ht⟩ := ConfigStore.exists_types_of_config hconfig
  have hfile : file ≠ "" := by
    rintro rfl
    exact absurd hjson (by decide)
  by_cases hdepth : (Value.object (Config.types t).toPairs).depth ≤ room.read
  · rw [if_pos hdepth] at hread ⊢
    exact ConfigStore.config_eq_of_readFile hfile hread ht
  · rw [if_neg hdepth] at hread ⊢
    exact ConfigStore.config_eq_error hfile hread

/-- **A saved configuration loads back, unless it is nested more deeply than a file can be read.**
Where values can be said in JSON, saving them leaves their text in the file, the text is read as the
values, and the file gives the same configuration, without a warning. -/
theorem config_of_save
    (hconfig : (ConfigStore.builtin.config folder₀ "typescript" custom file₀ room).2 = .ok c)
    (hvalues : ∀ p ∈ c.toPairs, p.2.Storable) (hsave : c.save folder file room = .ok saved)
    (hjson : ".json".toList <:+ file.toList) (hname : (Path.ofString file).fileName ≠ ".json") :
    saved.find (Path.ofString file) = .ok (.file c.text) ∧
    (Json.read c.text room = if (Value.object c.toPairs).depth ≤ room.read
      then .ok (.object c.toPairs) else .error .tooManyLevels) ∧
    ConfigStore.builtin.config saved "typescript" .null file room =
      ([], if (Value.object c.toPairs).depth ≤ room.read then .ok c
        else .error (.limit .levels)) ∧
    ∀ v text, v.Storable → Json.dump v room = .ok text →
      Json.read text room = if v.depth ≤ room.read then .ok v else .error .tooManyLevels :=
  ⟨find_of_save hsave hjson, read_saved hconfig hvalues hsave,
    reload hconfig hvalues hsave hjson hname, fun _ _ hv hdump => Json.read_of_dump hv hdump⟩

end

/-- A mapping under a name that has to be escaped, with values inside each other. -/
def nestedOptions : List (String × Value) :=
  [("typesPrefix", .text "\x22\\\n\x01ß"),
   ("scalars", .object [("\x7f/\r", .list [.null, .bool true, .int (-120), .object []])])]

theorem config_of_save_nested : ∃ c saved,
    (ConfigStore.builtin.config {} "typescript" (.object nestedOptions)).2 = .ok c ∧
    c.save {} ".codegen.json" = .ok saved ∧
    saved.find (Path.ofString ".codegen.json") = .ok (.file c.text) ∧
    ConfigStore.builtin.config saved "typescript" .null ".codegen.json" = ([], .ok c) := by
  have hruns : ((ConfigStore.builtin.config {} "typescript" (.object nestedOptions)).2.toOption.any
      fun c => (c.save {} ".codegen.json").toOption.isSome &&
        decide ((Value.object c.toPairs).depth ≤ Room.ample.read)) = true := by
    decide +kernel
  obtain ⟨c, hconfig, hruns⟩ := (Option.any_eq_true ..).mp hruns
  rw [Bool.and_eq_true, decide_eq_true_iff] at hruns
  obtain ⟨hsaves, hdepth⟩ := hruns
  obtain ⟨saved, hsave⟩ := Option.isSome_iff_exists.mp hsaves
  rw [toOption_eq_some] at hconfig hsave
  have hitems : ∀ v ∈ [.null, .bool true, .int (-120), .object []], Value.Storable v := by
    simp only [List.forall_mem_cons, List.not_mem_nil, IsEmpty.forall_iff, implies_true, and_true]
    exact ⟨.null, .bool true, .int (-120), .object (by decide) nofun⟩
  have hpairs : ∀ p ∈ nestedOptions, p.2.Storable := by
    rw [nestedOptions, List.forall_mem_cons, List.forall_mem_singleton]
    refine ⟨.text _, .object (by decide) fun p hp => ?_⟩
    rw [List.mem_singleton.mp hp]
    exact .list hitems
  obtain ⟨hfind, _, hload, _⟩ := config_of_save hconfig (storable_of_config hpairs hconfig) hsave
    (by decide) (by decide)
  rw [if_pos hdepth] at hload
  exact ⟨c, saved, hconfig, hsave, hfind, hload⟩

/-! ## What is lost -/

theorem storable_nest (n : Nat) : (Value.nest n).Storable := by
  induction n with
  | zero => exact .list nofun
  | succ n ih => exact .list fun v hv => List.mem_singleton.mp hv ▸ ih

/-- A scalar with one list more inside each other than can be read, where it is written. -/
def deepOptions : List (String × Value) := [("scalars", .object [("A", .nest 985)])]

/-- A file whose name is nothing but the suffix has none, so what is saved in it is not loaded; and
neither is what is deeper than can be read. -/
theorem config_lost :
    (∃ c saved, (ConfigStore.builtin.config {} "typescript" (.object [])).2 = .ok c ∧
      (∀ p ∈ c.toPairs, p.2.Storable) ∧ c.save {} ".json" = .ok saved ∧
      ".json".toList <:+ ".json".toList ∧
      (ConfigStore.builtin.config saved "typescript" .null ".json").2 =
        .error (.fileNotJson ".json")) ∧
    ∃ c saved, (ConfigStore.builtin.config {} "typescript" (.object deepOptions)).2 = .ok c ∧
      (∀ p ∈ c.toPairs, p.2.Storable) ∧ c.save {} "deep.json" = .ok saved ∧
      ".json".toList <:+ "deep.json".toList ∧
      (ConfigStore.builtin.config saved "typescript" .null "deep.json").2 =
        .error (.limit .levels) := by
  constructor
  · have hruns : ((ConfigStore.builtin.config {} "typescript" (.object [])).2.toOption.any
        fun c => (c.save {} ".json").toOption.isSome) = true := by
      decide +kernel
    obtain ⟨c, hconfig, hsaves⟩ := (Option.any_eq_true ..).mp hruns
    obtain ⟨saved, hsave⟩ := Option.isSome_iff_exists.mp hsaves
    rw [toOption_eq_some] at hconfig hsave
    have hfind : saved.find (Path.ofString ".json") = .ok (.file c.text) :=
      find_of_save hsave (List.suffix_refl _)
    refine ⟨c, saved, hconfig, storable_of_config (List.forall_mem_nil _) hconfig, hsave,
      List.suffix_refl _, ?_⟩
    rw [ConfigStore.config_eq_error (by decide) (ConfigStore.readFile_notJson hfind (by decide))]
    rfl
  · have hruns : ((ConfigStore.builtin.config {} "typescript" (.object deepOptions)).2.toOption.any
        fun c => (c.save {} "deep.json").toOption.isSome &&
          decide (Room.ample.read < (Value.object c.toPairs).depth)) = true := by
      decide +kernel
    obtain ⟨c, hconfig, hruns⟩ := (Option.any_eq_true ..).mp hruns
    rw [Bool.and_eq_true, decide_eq_true_iff] at hruns
    obtain ⟨hsaves, hdepth⟩ := hruns
    obtain ⟨saved, hsave⟩ := Option.isSome_iff_exists.mp hsaves
    rw [toOption_eq_some] at hconfig hsave
    have hpairs : ∀ p ∈ deepOptions, p.2.Storable := by
      rw [deepOptions, List.forall_mem_singleton]
      exact .object (by decide) fun p hp => List.mem_singleton.mp hp ▸ storable_nest 985
    have hvalues := storable_of_config hpairs hconfig
    refine ⟨c, saved, hconfig, hvalues, hsave, by decide, ?_⟩
    rw [reload hconfig hvalues hsave (by decide) (by decide), if_neg (Nat.not_le.mpr hdepth)]

end SchemaTypings
