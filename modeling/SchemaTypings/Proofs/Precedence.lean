import SchemaTypings.Proofs.SavedConfig

/-!
# Which source an option comes from

A key means an option if the option's key is its normal spelling, and of several keys in one mapping
that mean the same option the last one counts. An option of a configuration has the value of the
last key in the custom options that means it, otherwise of the last one in the file, otherwise of the
default of its language, and otherwise the value that it has when nobody sets it. Keys that mean no
option of the language change nothing.
-/

open SchemaTypings.Outcome

namespace SchemaTypings

/-! ## The last key that means an option -/

/-- The value under the last of the keys whose normal spelling is `key`. -/
def lastOf (key : String) (pairs : List (String × Value)) : Option Value :=
  (pairs.reverse.find? fun p => optionKey p.1 = key).map Prod.snd

theorem lastOf_cons (key : String) (p : String × Value) (rest : List (String × Value)) :
    lastOf key (p :: rest) =
      (lastOf key rest).or (if optionKey p.1 = key then some p.2 else none) := by
  rw [lastOf, lastOf, List.reverse_cons, List.find?_append]
  cases rest.reverse.find? fun p => optionKey p.1 = key with
  | some q => rfl
  | none => by_cases h : optionKey p.1 = key <;> simp [h]

theorem lastOf_eq_none {key : String} {pairs : List (String × Value)}
    (h : ∀ p ∈ pairs, optionKey p.1 ≠ key) : lastOf key pairs = none := by
  rw [lastOf, List.find?_eq_none.mpr]
  · rfl
  · intro p hp
    simpa using h p (List.mem_reverse.mp hp)

theorem Table.get?_eq_find? {α : Type} (t : Table String α) (key : String) :
    Table.get? t key = (t.find? fun p => p.1 = key).map Prod.snd := by
  induction t with
  | nil => rfl
  | cons p rest ih =>
    rw [Table.get?, List.find?_cons]
    by_cases h : p.1 = key <;> simp [h, ih]

theorem get?_normalizeKeys (pairs : List (String × Value)) (key : String) :
    Table.get? (normalizeKeys pairs) key = lastOf key pairs := by
  rw [normalizeKeys, Table.get?_ofPairs, ← List.map_reverse, Table.get?_eq_find?, List.find?_map,
    Option.map_map, lastOf]
  simp only [Function.comp_def]

/-! ## Writing over a table -/

/-- No key after `key` itself means the same as `key`. -/
def KeyLast (key : String) (t : Table String Value) : Prop :=
  t.Pairwise fun p q => p.1 = key → optionKey q.1 ≠ key

section

variable {key k : String} {v : Value} {t u : Table String Value}

theorem keyLast_put (ht : KeyLast key t) (hk : optionKey k = k) :
    KeyLast key (Table.put t k v) := by
  induction t with
  | nil => exact List.pairwise_singleton _ _
  | cons p rest ih =>
    obtain ⟨hp, hrest⟩ := List.pairwise_cons.mp ht
    rw [Table.put]
    split
    · next heq => exact List.pairwise_cons.mpr ⟨fun q hq hkey => hp q hq (heq.trans hkey), hrest⟩
    · next hne =>
      refine List.pairwise_cons.mpr ⟨fun q hq hkey => ?_, ih hrest⟩
      rcases Table.mem_of_mem_put hq with hq | rfl
      · exact hp q hq hkey
      · rw [hk]
        exact fun heq => hne (hkey.trans heq.symm)

theorem lastOf_put (ht : KeyLast key t) (hk : optionKey k = k) :
    lastOf key (Table.put t k v) = if k = key then some v else lastOf key t := by
  induction t with
  | nil => simp [Table.put, hk, lastOf]
  | cons p rest ih =>
    obtain ⟨hp, hrest⟩ := List.pairwise_cons.mp ht
    rw [Table.put]
    split
    · next heq =>
      rw [lastOf_cons, lastOf_cons, heq, hk]
      split
      · next hkey => rw [lastOf_eq_none fun q hq => hp q hq (heq.trans hkey), Option.none_or]
      · rfl
    · rw [lastOf_cons, lastOf_cons, ih hrest]
      split <;> rfl

theorem keyLast_putAll (ht : KeyLast key t) (hu : ∀ p ∈ u, optionKey p.1 = p.1) :
    KeyLast key (Table.putAll t u) := by
  induction u using List.reverseRecOn with
  | nil => exact ht
  | append_singleton u p ih =>
    rw [List.forall_mem_append, List.forall_mem_singleton] at hu
    rw [Table.putAll_concat]
    exact keyLast_put (ih hu.1) hu.2

/-- Normal keys that are written over a table go before what it held. -/
theorem lastOf_putAll (ht : KeyLast key t) (hu : NormalKeys u) :
    lastOf key (Table.putAll t u) = (Table.get? u key).or (lastOf key t) := by
  have hkeys : ∀ p ∈ u, optionKey p.1 = p.1 := fun p hp => hu.normal p.1 (List.mem_map_of_mem hp)
  have hlast : Table.get? u key = Table.get? u.reverse key := by
    rw [← Table.get?_ofPairs, Table.ofPairs_of_nodup hu.distinct]
  rw [hlast]
  clear hlast hu
  -- The pair that is written last comes first in the answer, so the induction is from the end.
  induction u using List.reverseRecOn with
  | nil => rfl
  | append_singleton u p ih =>
    rw [List.forall_mem_append, List.forall_mem_singleton] at hkeys
    rw [Table.putAll_concat, lastOf_put (keyLast_putAll ht hkeys.1) hkeys.2, ih hkeys.1,
      List.reverse_concat, Table.get?]
    split <;> rfl

theorem lastOf_putAll_normalizeKeys (ht : KeyLast key t) (pairs : List (String × Value)) :
    lastOf key (Table.putAll t (normalizeKeys pairs)) = (lastOf key pairs).or (lastOf key t) := by
  rw [lastOf_putAll ht (normalKeys_normalizeKeys pairs), get?_normalizeKeys]

theorem keyLast_putAll_normalizeKeys (ht : KeyLast key t) (pairs : List (String × Value)) :
    KeyLast key (Table.putAll t (normalizeKeys pairs)) :=
  keyLast_putAll ht fun p hp =>
    (normalKeys_normalizeKeys pairs).normal p.1 (List.mem_map_of_mem hp)

end

/-! ## Configurations with given values -/

namespace Config

/-- The configuration of a family in which the options have these values. -/
def ofOptions (family : ConfigClass) (o : Options) : Except ConfigError Config :=
  match family with
  | .basic => .ok (.basic (o .outputFile))
  | .types => (TypesConfig.ofOptions o).map .types

theorem ofTable_eq_ofOptions (family : ConfigClass) (t : Table String Value) :
    ofTable family t = ofOptions family (Options.ofTable t) := by
  cases family <;> rfl

theorem ofOptions_congr {family : ConfigClass} {o o' : Options}
    (h : ∀ name ∈ family.names, o name = o' name) : ofOptions family o = ofOptions family o' := by
  cases family with
  | basic =>
    have hvalue : o .outputFile = o' .outputFile := h .outputFile List.mem_cons_self
    simp only [ofOptions, hvalue]
  | types =>
    have hvalues : o = o' := funext fun name => h name name.mem_all
    rw [hvalues]

theorem get?_toPairs_of_ofOptions {family : ConfigClass} {o : Options} {c : Config}
    (h : ofOptions family o = .ok c) :
    c.kind = family ∧ ∀ name ∈ family.names, Table.get? c.toPairs name.key = some (o name) := by
  cases family with
  | basic =>
    obtain rfl := Except.ok.inj h
    refine ⟨rfl, fun name hname => ?_⟩
    obtain rfl := List.mem_singleton.mp hname
    rfl
  | types =>
    obtain ⟨t, ht, rfl⟩ := map_eq_ok.mp h
    refine ⟨rfl, fun name _ => ?_⟩
    rw [← TypesConfig.options_of_ofOptions ht]
    exact Options.get?_toPairs t.options name

end Config

/-! ## What a configuration is put together from -/

/-- No two defaults of a language mean one of its options. -/
def LanguageOptions.Unambiguous (known : LanguageOptions) : Prop :=
  known.defaults.Pairwise fun p q =>
    optionKey p.1 = optionKey q.1 → known.family.knows (optionKey p.1) = false

instance (known : LanguageOptions) : Decidable known.Unambiguous :=
  inferInstanceAs (Decidable (List.Pairwise _ _))

theorem ConfigClass.knows_key {family : ConfigClass} {o : OptionName} (ho : o ∈ family.names) :
    family.knows o.key = true :=
  List.any_eq_true.mpr ⟨o, ho, decide_eq_true rfl⟩

theorem LanguageOptions.Unambiguous.keyLast {known : LanguageOptions} (h : known.Unambiguous)
    {o : OptionName} (ho : o ∈ known.family.names) : KeyLast o.key known.defaults := by
  refine List.Pairwise.imp (fun {p q} hpq hp hq => ?_) h
  have hmeans : optionKey p.1 = o.key := by rw [hp, o.optionKey_key]
  have hunknown := hpq (hmeans.trans hq.symm)
  rw [hmeans, ConfigClass.knows_key ho] at hunknown
  cases hunknown

/-- The language that a configuration is for, the options in its file and the custom ones. -/
structure ConfigSources where
  known : LanguageOptions
  file : List (String × Value)
  custom : List (String × Value)

namespace ConfigSources

/-- The value of an option: what comes first of the custom options, the file, the language and the
value of an option that is not set. -/
def value (src : ConfigSources) (o : OptionName) : Value :=
  ((lastOf o.key src.custom).or ((lastOf o.key src.file).or
    (lastOf o.key src.known.defaults))).getD o.default

/-- The configuration in which each option has its value, if these values make one. -/
def result (src : ConfigSources) : Except ConfigError Config :=
  Config.ofOptions src.known.family src.value

/-- The sources without the keys that mean no option of the language. -/
def relevant (src : ConfigSources) : ConfigSources :=
  let means (p : String × Value) : Bool := src.known.family.knows (optionKey p.1)
  { known := { src.known with defaults := src.known.defaults.filter means }
    file := src.file.filter means
    custom := src.custom.filter means }

theorem lastOf_filter {family : ConfigClass} {o : OptionName} (ho : o ∈ family.names)
    (pairs : List (String × Value)) :
    lastOf o.key (pairs.filter fun p => family.knows (optionKey p.1)) = lastOf o.key pairs := by
  have hmeans : ∀ p : String × Value,
      (family.knows (optionKey p.1) = true ∧ optionKey p.1 = o.key) ↔ optionKey p.1 = o.key := by
    intro p
    refine and_iff_right_of_imp fun hp => ?_
    rw [hp, ConfigClass.knows_key ho]
  rw [lastOf, ← List.filter_reverse, List.find?_filter]
  simp only [hmeans, lastOf, decide_eq_true_eq]

theorem value_relevant {src : ConfigSources} {o : OptionName} (ho : o ∈ src.known.family.names) :
    src.relevant.value o = src.value o := by
  simp only [value, relevant, lastOf_filter ho]

theorem result_relevant (src : ConfigSources) : src.relevant.result = src.result :=
  Config.ofOptions_congr fun _ ho => value_relevant ho

end ConfigSources

/-! ## Where the sources are drawn from -/

namespace ConfigStore

/-- These are the sources of a configuration: a language that is known, what its file holds, if one
is named, and the custom options, if there are any. -/
structure Draws (s : ConfigStore) (folder : Folder) (language : String) (custom : Value)
    (file : String) (src : ConfigSources) : Prop where
  known : Table.get? s.languages (s.resolve language) = some src.known
  file : (file = "" ∧ src.file = []) ∨ (file ≠ "" ∧ readFile folder file = .ok src.file)
  custom : (custom = .null ∧ src.custom = []) ∨ custom = .object src.custom

variable {s : ConfigStore} {folder : Folder} {language : String} {custom : Value} {file : String}
  {src : ConfigSources}

theorem merged_of_file {known : LanguageOptions} {pairs : List (String × Value)}
    (hfile : (file = "" ∧ pairs = []) ∨ (file ≠ "" ∧ readFile folder file = .ok pairs)) :
    merged known folder custom file =
      let base := Table.putAll known.defaults (normalizeKeys pairs)
      if !custom.truthy then .ok base
      else
        match custom with
        | .object pairs => .ok (Table.putAll base (normalizeKeys pairs))
        | v => .error (.overridesShape v) := by
  rcases hfile with ⟨rfl, rfl⟩ | ⟨hne, hread⟩
  · rfl
  · have hempty : file.isEmpty = false := by simpa using hne
    unfold merged
    rw [hempty, if_neg Bool.false_ne_true, hread]
    rfl

theorem Draws.merged_eq (h : s.Draws folder language custom file src) :
    merged src.known folder custom file =
      .ok (Table.putAll (Table.putAll src.known.defaults (normalizeKeys src.file))
        (normalizeKeys src.custom)) := by
  rw [merged_of_file h.file]
  rcases h.custom with ⟨rfl, hnone⟩ | rfl
  · rw [hnone]
    rfl
  · cases src.custom <;> rfl

theorem Draws.config_eq (h : s.Draws folder language custom file src)
    (hclear : src.known.Unambiguous) :
    (s.config folder language custom file).2 = src.result := by
  have hlast : ∀ o ∈ src.known.family.names, Options.ofTable
      (normalizeKeys (Table.putAll (Table.putAll src.known.defaults (normalizeKeys src.file))
        (normalizeKeys src.custom))) o = src.value o := by
    intro o ho
    have hdefaults := hclear.keyLast ho
    rw [Options.ofTable, get?_normalizeKeys,
      lastOf_putAll_normalizeKeys (keyLast_putAll_normalizeKeys hdefaults src.file),
      lastOf_putAll_normalizeKeys hdefaults]
    rfl
  rw [config_of_known h.known, LanguageOptions.config]
  simp only [h.merged_eq, Config.ofValue, Config.ofPairs, Config.ofTable_eq_ofOptions]
  exact Config.ofOptions_congr hlast

/-- **A configuration gives each option the value of the last key that means it in the custom
options, else in the file, else in the defaults of its language, else the value of an option that is
not set.** It fails only where these values make no configuration, and sources that differ in no key
that means an option give the same. -/
theorem config_precedence (hsrc : s.Draws folder language custom file src)
    (hclear : src.known.Unambiguous) :
    (s.config folder language custom file).2 = src.result ∧
    (∀ c, (s.config folder language custom file).2 = .ok c →
      c.kind = src.known.family ∧
        ∀ o ∈ src.known.family.names, Table.get? c.toPairs o.key = some (src.value o)) ∧
    ∀ {s' : ConfigStore} {folder' : Folder} {language' : String} {custom' : Value} {file' : String}
      {src' : ConfigSources}, s'.Draws folder' language' custom' file' src' →
      src'.known.Unambiguous → src'.relevant = src.relevant →
      (s'.config folder' language' custom' file').2 = (s.config folder language custom file).2 := by
  refine ⟨hsrc.config_eq hclear, fun c hc => ?_, ?_⟩
  · exact Config.get?_toPairs_of_ofOptions ((hsrc.config_eq hclear).symm.trans hc)
  · intro s' folder' language' custom' file' src' hsrc' hclear' hrelevant
    rw [hsrc'.config_eq hclear', hsrc.config_eq hclear, ← src'.result_relevant, hrelevant,
      src.result_relevant]

/-- Spellings that meet: two in the file, two in the custom options, and defaults under keys that
are not normal. -/
def layeredSources : ConfigSources :=
  { known :=
      { family := .types
        defaults := [("TypesPrefix", .text "default"), ("maybe-value", .text "default"),
          ("field_wrapper_value", .text "default")] }
    file := [("typesPrefix", .text "file"), ("maybeValue", .text "first"),
      ("MAYBE_VALUE", .text "file"), ("typesSufix", .text "file")]
    custom := [("types-prefix", .text "first"), ("types_prefix", .text "custom"), ("typo", .null)] }

def layeredStore : ConfigStore :=
  register {} "Layered" .types layeredSources.known.defaults ["L"]

def layeredFolder : Folder :=
  { files := [(["c.json"], Json.render (.object layeredSources.file))] }

theorem readFile_layered : readFile layeredFolder "c.json" = .ok layeredSources.file := by
  have hstorable : (Value.object layeredSources.file).Storable := by
    refine .object (by decide) ?_
    simp only [layeredSources, List.forall_mem_cons]
    exact ⟨.text _, .text _, .text _, .text _, nofun⟩
  have hdump : Json.dump (.object layeredSources.file) =
      .ok (Json.render (.object layeredSources.file)) :=
    Json.dump_eq_ok.mpr ⟨by decide, rfl⟩
  exact readFile_eq rfl (by decide) (Json.read_of_dump hstorable hdump)

theorem draws_layered (custom : List (String × Value)) :
    layeredStore.Draws layeredFolder "l" (.object custom) "c.json"
      { layeredSources with custom } where
  known := rfl
  file := Or.inr ⟨by decide, readFile_layered⟩
  custom := Or.inr rfl

theorem config_precedence_layered : ∃ c,
    (layeredStore.config layeredFolder "l" (.object layeredSources.custom) "c.json").2 = .ok c ∧
    (∀ p ∈ [(OptionName.typesPrefix, "custom"), (.maybeValue, "file"),
        (.fieldWrapperValue, "default"), (.typesSuffix, "")],
      (Table.get? c.toPairs p.1.key).bind Value.asText? = some p.2) ∧
    (layeredStore.config layeredFolder "l" (.object (layeredSources.custom.take 2)) "c.json").2 =
      .ok c := by
  have hclear : layeredSources.known.Unambiguous := by decide +kernel
  have hvalid : layeredSources.result.toOption.isSome = true := by decide +kernel
  have htypo : ConfigClass.knows .types (optionKey "typo") = false := by decide +kernel
  have htexts : ∀ p ∈ [(OptionName.typesPrefix, "custom"), (.maybeValue, "file"),
      (.fieldWrapperValue, "default"), (.typesSuffix, "")],
      (some (layeredSources.value p.1)).bind Value.asText? = some p.2 := by
    decide +kernel
  obtain ⟨c, hc⟩ := Option.isSome_iff_exists.mp hvalid
  obtain ⟨hresult, hvalues, hsame⟩ :=
    config_precedence (draws_layered layeredSources.custom) hclear
  have hconfig := hresult.trans (toOption_eq_some.mp hc)
  have hdropped := hsame (draws_layered (layeredSources.custom.take 2)) hclear
    (by simp [ConfigSources.relevant, layeredSources, List.filter_cons, htypo])
  refine ⟨c, hconfig, fun p hp => ?_, hdropped.trans hconfig⟩
  rw [(hvalues c hconfig).2 p.1 p.1.mem_all]
  exact htexts p hp

end ConfigStore

end SchemaTypings
