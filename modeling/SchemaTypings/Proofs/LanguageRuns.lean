import Mathlib.Data.List.Induction
import SchemaTypings.Proofs.EntryPoints
import SchemaTypings.Proofs.LetterCase

/-!
# Registrations of languages

Each registration stores a language over what was stored of it before, and its aliases over the
languages that they pointed to. So what is known of a language comes from its last registration, and
an alias points to the language of the last registration that lists it. An alias goes before a
language of the same name: a language that is listed has its own configuration unless the last
registration that lists its name as an alias is one of another language.
-/

namespace SchemaTypings

/-- A registration of a language, with its name and aliases as they are given. -/
structure Registration where
  language : String
  family : ConfigClass
  defaults : Table String Value := []
  aliases : List String := []

namespace Registration

def options (r : Registration) : LanguageOptions := { family := r.family, defaults := r.defaults }

/-- The name under which the language is listed. -/
def key (r : Registration) : String := Text.lowerString r.language

def lists (r : Registration) (word : String) : Bool :=
  (r.aliases.map Text.lowerString).contains word

def run (s : ConfigStore) (r : Registration) : ConfigStore :=
  s.register r.language r.family r.defaults r.aliases

/-! ## One registration -/

theorem get?_languages_run (s : ConfigStore) (r : Registration) (language : String) :
    Table.get? (r.run s).languages language =
      if r.key = language then some r.options else Table.get? s.languages language :=
  Table.get?_put _ _ _ _

theorem get?_bindings (words : List String) (target word : String) :
    Table.get? (words.map fun w => (Text.lowerString w, target)) word =
      if word ∈ words.map Text.lowerString then some target else none := by
  induction words with
  | nil => rfl
  | cons w words ih =>
    rw [List.map_cons, Table.get?, ih, List.map_cons]
    by_cases h : Text.lowerString w = word
    · simp [h]
    · simp [h, Ne.symm h]

theorem get?_aliases_run (s : ConfigStore) (r : Registration) (word : String) :
    Table.get? (r.run s).aliases word =
      if r.lists word then some r.key else Table.get? s.aliases word := by
  have hbound : Table.get? (r.run s).aliases word =
      (Table.get? (r.aliases.map fun w => (Text.lowerString w, r.key)).reverse word).or
        (Table.get? s.aliases word) := Table.get?_putAll _ _ _
  rw [hbound, ← List.map_reverse, get?_bindings]
  simp only [lists, List.contains_iff_mem, List.map_reverse, List.mem_reverse]
  split <;> rfl

/-! ## Runs of registrations -/

/-- The registration that a new store starts with. -/
def first : Registration :=
  { language := "typescript"
    family := .types
    defaults := ConfigStore.builtinOptions.defaults
    aliases := ["ts"] }

/-- The store after some registrations on a new one. -/
def after (calls : List Registration) : ConfigStore := calls.foldl run ConfigStore.builtin

/-- The last registration of a language, that of a new store included. -/
def lastOf? (calls : List Registration) (language : String) : Option Registration :=
  (first :: calls).reverse.find? fun r => r.key = language

/-- The language of the last registration that lists a word as an alias. -/
def owner? (calls : List Registration) (word : String) : Option String :=
  ((first :: calls).reverse.find? fun r => r.lists word).map key

theorem after_snoc (calls : List Registration) (r : Registration) :
    after (calls ++ [r]) = r.run (after calls) := by simp [after]

theorem lastOf?_snoc (calls : List Registration) (r : Registration) (language : String) :
    lastOf? (calls ++ [r]) language =
      if r.key = language then some r else lastOf? calls language := by
  simp only [lastOf?, ← List.cons_append, List.reverse_append, List.reverse_singleton,
    List.singleton_append, List.find?_cons]
  split <;> simp_all

theorem owner?_snoc (calls : List Registration) (r : Registration) (word : String) :
    owner? (calls ++ [r]) word = if r.lists word then some r.key else owner? calls word := by
  simp only [owner?, ← List.cons_append, List.reverse_append, List.reverse_singleton,
    List.singleton_append, List.find?_cons]
  split <;> simp_all

theorem get?_languages_after (calls : List Registration) (language : String) :
    Table.get? (after calls).languages language = (lastOf? calls language).map options := by
  induction calls using List.reverseRecOn with
  | nil =>
    refine (get?_languages_run {} first language).trans ?_
    rw [lastOf?, List.reverse_singleton, List.find?_singleton]
    split <;> simp_all [Table.get?]
  | append_singleton calls r ih =>
    rw [after_snoc, lastOf?_snoc, get?_languages_run, ih]
    split <;> rfl

theorem get?_aliases_after (calls : List Registration) (word : String) :
    Table.get? (after calls).aliases word = owner? calls word := by
  induction calls using List.reverseRecOn with
  | nil =>
    refine (get?_aliases_run {} first word).trans ?_
    rw [owner?, List.reverse_singleton, List.find?_singleton]
    split <;> rfl
  | append_singleton calls r ih => rw [after_snoc, owner?_snoc, get?_aliases_run, ih]

theorem lowerString_of_lastOf? {calls : List Registration} {language : String} {r : Registration}
    (h : lastOf? calls language = some r) : Text.lowerString language = language := by
  have hkey := List.find?_some h
  rw [← of_decide_eq_true hkey, key, Text.lowerString_lowerString]

theorem exists_lastOf?_of_owner? {calls : List Registration} {word other : String}
    (h : owner? calls word = some other) : ∃ r, lastOf? calls other = some r := by
  obtain ⟨r, hr, hkey⟩ := Option.map_eq_some_iff.mp h
  have hmem := List.mem_of_find?_eq_some hr
  refine Option.isSome_iff_exists.mp ?_
  rw [lastOf?, List.find?_isSome]
  exact ⟨r, hmem, decide_eq_true hkey⟩

theorem mem_list_iff {calls : List Registration} {language : String} :
    language ∈ (after calls).list ↔ ∃ r, lastOf? calls language = some r := by
  rw [ConfigStore.list, Table.mem_keys_iff, get?_languages_after, Option.isSome_map,
    Option.isSome_iff_exists]

theorem resolve_after {calls : List Registration} {language : String}
    (h : Text.lowerString language = language) :
    (after calls).resolve language = (owner? calls language).getD language := by
  rw [ConfigStore.resolve, h, get?_aliases_after]

theorem config_of_lastOf? {calls : List Registration} {language target : String} {r : Registration}
    (htarget : (after calls).resolve language = target) (hr : lastOf? calls target = some r)
    (folder : Folder) (custom : Value) (file : String) :
    (after calls).config folder language custom file = r.options.config folder custom file := by
  refine ConfigStore.config_of_known ?_ folder custom file
  rw [htarget, get?_languages_after, hr]
  rfl

/-- **What is known of a language that is listed comes from its last registration. Its configuration
is made of that, unless the last registration that lists its name as an alias is one of another
language. Then it is made of the last registration of that other language.** -/
theorem listed_language_configured (calls : List Registration) {language : String}
    (hlisted : language ∈ (after calls).list) :
    ∃ own, lastOf? calls language = some own ∧
      Table.get? (after calls).languages language = some own.options ∧
      ((∀ other, owner? calls language = some other → other = language) →
        ∀ folder custom file, (after calls).config folder language custom file =
          own.options.config folder custom file) ∧
      ∀ other, owner? calls language = some other → other ≠ language →
        other ∈ (after calls).list ∧ ∃ theirs, lastOf? calls other = some theirs ∧
          ∀ folder custom file, (after calls).config folder language custom file =
            theirs.options.config folder custom file := by
  obtain ⟨own, hown⟩ := mem_list_iff.mp hlisted
  have hresolve : (after calls).resolve language = (owner? calls language).getD language :=
    resolve_after (lowerString_of_lastOf? hown)
  refine ⟨own, hown, ?_, ?_, ?_⟩
  · rw [get?_languages_after, hown]
    rfl
  · intro hnone
    refine config_of_lastOf? ?_ hown
    cases howner : owner? calls language with
    | none => rw [hresolve, howner, Option.getD_none]
    | some other => rw [hresolve, howner, Option.getD_some, hnone other howner]
  · intro other hother _
    obtain ⟨theirs, htheirs⟩ := exists_lastOf?_of_owner? hother
    refine ⟨mem_list_iff.mpr ⟨theirs, htheirs⟩, theirs, htheirs, config_of_lastOf? ?_ htheirs⟩
    rw [hresolve, hother, Option.getD_some]

/-- An alias of `other` goes before the language that a new store starts with. -/
theorem listed_language_configured_diverted :
    let call : Registration :=
      { language := "Other", family := .basic, defaults := [("outputFile", .text "x")]
        aliases := ["TypeScript"] }
    (∃ own, lastOf? [call] "typescript" = some own ∧ own.family = .types ∧
      Table.get? (after [call]).languages "typescript" = some own.options) ∧
    (after [call]).config {} "typescript" .null "" = ([], .ok (.basic (.text "x"))) ∧
    (after [call]).config {} "other" .null "" = ([], .ok (.basic (.text "x"))) := by
  intro call
  have hown : (lastOf? [call] "typescript").map (·.family) = some .types := by decide +kernel
  have hkey : call.key = "other" := by decide +kernel
  have hother : lastOf? [call] "other" = some call :=
    (lastOf?_snoc [] call "other").trans (if_pos hkey)
  have hconfig : call.options.config {} .null "" = ([], .ok (.basic (.text "x"))) := rfl
  obtain ⟨own, hlast, hfamily⟩ := Option.map_eq_some_iff.mp hown
  obtain ⟨_, hstored, hknown, -, hdiverted⟩ :=
    listed_language_configured [call] (mem_list_iff.mpr ⟨own, hlast⟩)
  obtain ⟨hlisted, _, htheirs, htypescript⟩ := hdiverted "other" (by decide +kernel) (by decide)
  obtain ⟨_, hkept, -, hundiverted, -⟩ := listed_language_configured [call] hlisted
  have hnone : owner? [call] "other" = none := by decide +kernel
  obtain rfl := Option.some.inj (hlast.symm.trans hstored)
  obtain rfl := Option.some.inj (hother.symm.trans htheirs)
  obtain rfl := Option.some.inj (hother.symm.trans hkept)
  refine ⟨⟨own, hlast, hfamily, hknown⟩, ?_, ?_⟩
  · rw [htypescript, hconfig]
  · rw [hundiverted (by simp [hnone]), hconfig]

end Registration

end SchemaTypings
