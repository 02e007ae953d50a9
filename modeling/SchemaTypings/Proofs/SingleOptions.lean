import SchemaTypings.Console.Run
import SchemaTypings.Proofs.LedgerRuns
import SchemaTypings.Proofs.Precedence

/-!
# Which of several single options counts

The single options of a command line are collected under their keys as these are spelled, and only
then read as spellings of the options of a language. A spelling that comes up again takes the new
value but keeps its place. So of several spellings of one option the one that came up last counts,
with the last value under it. This is the last single option that means the option unless that one
repeats an older spelling.
-/

open SchemaTypings.Outcome

namespace SchemaTypings

/-! ## Keys in the order in which they came up -/

theorem lastOf_of_nodup {t : Table String Value} (h : (Table.keys t).Nodup) (key : String) :
    lastOf key t = ((Table.keys t).reverse.find? fun spelling =>
      optionKey spelling = key).bind (Table.get? t) := by
  rw [Table.keys, ← List.map_reverse, List.find?_map, Option.bind_map, lastOf]
  simp only [Function.comp_def]
  cases hlast : t.reverse.find? fun p => optionKey p.1 = key with
  | none => rfl
  | some p =>
    have hp : p ∈ t := List.mem_reverse.mp (List.mem_of_find?_eq_some hlast)
    exact ((Table.get?_eq_some_iff h).mpr hp).symm

namespace Console

/-- The keys of single options, each where it first came up. -/
def spellings (entries : List (String × Value)) : List String := (Table.keys entries).eraseDups

/-- Of the spellings of a key the one that came up last. -/
def newestSpelling? (key : String) (entries : List (String × Value)) : Option String :=
  (spellings entries).reverse.find? fun spelling => optionKey spelling = key

/-- The last of the single options whose keys mean the same as `key`. -/
def lastSetting? (key : String) (entries : List (String × Value)) : Option (String × Value) :=
  entries.reverse.find? fun p => optionKey p.1 = key

section

variable {key spelling : String} {entries : List (String × Value)} {last : String × Value}

theorem mem_spellings {p : String × Value} (h : p ∈ entries) : p.1 ∈ spellings entries :=
  List.mem_eraseDups.mpr (List.mem_map_of_mem h)

theorem mem_of_lastSetting? (h : lastSetting? key entries = some last) : last ∈ entries :=
  List.mem_reverse.mp (List.mem_of_find?_eq_some h)

theorem means_of_lastSetting? (h : lastSetting? key entries = some last) :
    optionKey last.1 = key := by
  have hmeans := List.find?_some h
  exact of_decide_eq_true hmeans

theorem exists_newestSpelling? (h : lastSetting? key entries = some last) :
    ∃ spelling v, newestSpelling? key entries = some spelling ∧
      Table.get? entries.reverse spelling = some v := by
  have hnewest : (newestSpelling? key entries).isSome := by
    refine List.find?_isSome.mpr ⟨last.1, ?_, decide_eq_true (means_of_lastSetting? h)⟩
    exact List.mem_reverse.mpr (mem_spellings (mem_of_lastSetting? h))
  obtain ⟨spelling, hspelling⟩ := Option.isSome_iff_exists.mp hnewest
  have hkey : spelling ∈ Table.keys entries :=
    List.mem_eraseDups.mp (List.mem_reverse.mp (List.mem_of_find?_eq_some hspelling))
  have hvalue : (Table.get? entries.reverse spelling).isSome := by
    rw [← Table.mem_keys_iff, Table.keys, List.map_reverse, List.mem_reverse]
    exact hkey
  obtain ⟨v, hv⟩ := Option.isSome_iff_exists.mp hvalue
  exact ⟨spelling, v, hspelling, hv⟩

theorem older_of_newestSpelling? (hnewest : newestSpelling? key entries = some spelling)
    (hlast : lastSetting? key entries = some last) (hne : last.1 ≠ spelling) :
    [last.1, spelling].Sublist (spellings entries) := by
  obtain ⟨-, newer, older, hsplit, hnewer⟩ := List.find?_eq_some_iff_append.mp hnewest
  have horder : spellings entries = older.reverse ++ spelling :: newer.reverse := by
    rw [← List.reverse_reverse (spellings entries), hsplit]
    simp
  -- The last option that means the key is before or behind the newest spelling, or is it.
  have hmem := mem_spellings (mem_of_lastSetting? hlast)
  rw [horder, List.mem_append, List.mem_cons, List.mem_reverse, List.mem_reverse] at hmem
  have holder : last.1 ∈ older := by
    rcases hmem with holder | hnewest | hmem
    · exact holder
    · exact absurd hnewest hne
    · simpa [means_of_lastSetting? hlast] using hnewer last.1 hmem
  rw [horder]
  exact (List.singleton_sublist.mpr (List.mem_reverse.mpr holder)).append
    (List.singleton_sublist.mpr List.mem_cons_self)

theorem eq_of_lastSetting? {v : Value} (hlast : lastSetting? key entries = some last)
    (hvalue : Table.get? entries.reverse last.1 = some v) : last = (last.1, v) := by
  obtain ⟨hmeans, newer, older, hsplit, hnewer⟩ := List.find?_eq_some_iff_append.mp hlast
  -- A later option with this key would have been the last that means it.
  have hnone : newer.find? (fun p => p.1 = last.1) = none := by
    refine List.find?_eq_none.mpr fun p hp hkey => ?_
    have hother := hnewer p hp
    rw [of_decide_eq_true hkey, hmeans] at hother
    cases hother
  rw [Table.get?_eq_find?, hsplit, List.find?_append, hnone] at hvalue
  simpa [Prod.ext_iff] using hvalue

end

theorem lastOf_ofPairs (key : String) (entries : List (String × Value)) :
    lastOf key (Table.ofPairs entries) =
      (newestSpelling? key entries).bind (Table.get? entries.reverse) := by
  rw [lastOf_of_nodup (Table.nodup_keys_ofPairs entries), Table.keys_ofPairs]
  exact Option.bind_congr fun spelling _ => Table.get?_ofPairs entries spelling

variable {store : ConfigStore} {folder : Folder} {a : Arguments} {language : String}
  {known : LanguageOptions} {entries : List (String × Value)} {c : Config}

/-- A configuration that is made from single options has sources, the options among them. -/
theorem exists_draws
    (hknown : Table.get? store.languages (store.resolve language) = some known)
    (hread : a.overrides.mapM parseOverride = .ok entries)
    (hc : configFor store folder a language = .ok c) :
    ∃ file, store.Draws folder language (.object (Table.ofPairs entries)) (a.config.getD "")
        ⟨known, file, Table.ofPairs entries⟩ ∧
      (store.config folder language (.object (Table.ofPairs entries)) (a.config.getD "")).2 =
        .ok c := by
  have hoverrides : parseOverrides a.overrides = .ok (Table.ofPairs entries) := by
    rw [parseOverrides, hread]
    rfl
  rw [configFor, hoverrides] at hc
  have hconfig := mapError_eq_ok.mp hc
  by_cases hempty : a.config.getD "" = ""
  · exact ⟨[], ⟨hknown, Or.inl ⟨hempty, rfl⟩, Or.inr rfl⟩, hconfig⟩
  · cases hfile : ConfigStore.readFile folder (a.config.getD "") with
    | ok file => exact ⟨file, ⟨hknown, Or.inr ⟨hempty, hfile⟩, Or.inr rfl⟩, hconfig⟩
    | error e =>
      have hisEmpty : (a.config.getD "").isEmpty = false := by simpa using hempty
      rw [ConfigStore.config_of_known hknown, LanguageOptions.config] at hconfig
      unfold ConfigStore.merged at hconfig
      rw [hisEmpty, if_neg Bool.false_ne_true, hfile] at hconfig
      cases hconfig

/-- **An option that single options set has the last value under the newest of its spellings.** If
the last single option that means it uses that spelling the value is the one of that single option.
Otherwise the last single option repeats an older spelling, and its value is not looked at. -/
theorem configFor_overrides
    (hknown : Table.get? store.languages (store.resolve language) = some known)
    (hclear : known.Unambiguous) (hread : a.overrides.mapM parseOverride = .ok entries)
    (hc : configFor store folder a language = .ok c) {o : OptionName}
    (ho : o ∈ known.family.names) {last : String × Value}
    (hlast : lastSetting? o.key entries = some last) :
    ∃ spelling v, newestSpelling? o.key entries = some spelling ∧
      Table.get? entries.reverse spelling = some v ∧
      Table.get? c.toPairs o.key = some v ∧
      (last.1 = spelling → last.2 = v) ∧
      (last.1 ≠ spelling → [last.1, spelling].Sublist (spellings entries)) := by
  obtain ⟨file, hdraws, hconfig⟩ := exists_draws hknown hread hc
  obtain ⟨-, hvalues, -⟩ := ConfigStore.config_precedence hdraws hclear
  obtain ⟨spelling, v, hnewest, hv⟩ := exists_newestSpelling? hlast
  refine ⟨spelling, v, hnewest, hv, ?_, ?_, older_of_newestSpelling? hnewest hlast⟩
  · rw [(hvalues c hconfig).2 o ho, ConfigSources.value, lastOf_ofPairs, hnewest, Option.bind_some,
      hv]
    rfl
  · rintro rfl
    exact congrArg Prod.snd (eq_of_lastSetting? hlast hv)

/-- A spelling that is set first and again last, with another one in between. -/
theorem configFor_overrides_repeated :
    let a : Arguments :=
      { files := ["a.graphql"]
        overrides := [some "types-prefix=A", some "typesPrefix=B", some "types-prefix=C"] }
    ∃ entries last c, a.overrides.mapM parseOverride = .ok entries ∧
      lastSetting? OptionName.typesPrefix.key entries = some last ∧ last.2.asText? = some "C" ∧
      configFor ConfigStore.builtin {} a "typescript" = .ok c ∧
      (Table.get? c.toPairs OptionName.typesPrefix.key).bind Value.asText? = some "B" := by
  intro a
  let parsed := (a.overrides.mapM parseOverride).toOption
  have hparsed : parsed.isSome = true := by decide +kernel
  have hsaid : (parsed.bind fun entries =>
      (lastSetting? OptionName.typesPrefix.key entries).bind (·.2.asText?)) = some "C" := by
    decide +kernel
  have hnewest : parsed.bind (newestSpelling? OptionName.typesPrefix.key) =
      some "typesPrefix" := by decide +kernel
  have hmeant : (parsed.bind fun entries =>
      (Table.get? entries.reverse "typesPrefix").bind Value.asText?) = some "B" := by
    decide +kernel
  have hmade : (configFor ConfigStore.builtin {} a "typescript").toOption.isSome = true := by
    decide +kernel
  obtain ⟨entries, hentries⟩ := Option.isSome_iff_exists.mp hparsed
  obtain ⟨c, hc⟩ := Option.isSome_iff_exists.mp hmade
  rw [hentries, Option.bind_some] at hsaid hnewest hmeant
  obtain ⟨last, hlast, htext⟩ := Option.bind_eq_some_iff.mp hsaid
  have hread := toOption_eq_some.mp hentries
  have hconfig := toOption_eq_some.mp hc
  have hknown : Table.get? ConfigStore.builtin.languages
      (ConfigStore.builtin.resolve "typescript") = some ConfigStore.builtinOptions := rfl
  obtain ⟨spelling, v, hspelling, hv, hvalue, -, -⟩ :=
    configFor_overrides hknown (by decide +kernel) hread hconfig
      (OptionName.mem_all .typesPrefix) hlast
  obtain rfl := Option.some.inj (hnewest.symm.trans hspelling)
  rw [hv] at hmeant
  exact ⟨entries, last, c, hread, hlast, htext, hconfig, hvalue ▸ hmeant⟩

end Console

end SchemaTypings
