import Mathlib.Data.List.Induction
import SchemaTypings.Proofs.LetterCase
import SchemaTypings.Proofs.Registration

/-!
# Runs of a registry

Languages come and go by registrations and removals, and a registration that is refused may leave a
part of itself behind. Whatever the run, each alias points to a language that is registered, and
only a removal or a replacement takes a generator away from a name.
-/

namespace SchemaTypings.Registry

variable {γ : Type}

/-! ## What a registration leaves -/

def store (r : Registry γ) (key : String) (g : γ) (aliases : List String) : Registry γ :=
  withAliases { r with generators := Table.put r.generators key g } key aliases

theorem get?_generators_store (r : Registry γ) (key : String) (g : γ) (aliases : List String)
    (language : String) :
    Table.get? (r.store key g aliases).generators language =
      if key = language then some g else Table.get? r.generators language :=
  Table.get?_put _ _ _ _

theorem get?_aliases_withAliases (r : Registry γ) (key : String) (aliases : List String)
    (word : String) :
    Table.get? (r.withAliases key aliases).aliases word =
      if word ≠ key ∧ word ∈ aliases.map Text.lowerString then some key
      else Table.get? r.aliases word := by
  induction aliases generalizing r with
  | nil => simp [withAliases, bindings, Table.putAll]
  | cons other rest ih =>
    by_cases hself : Text.lowerString other = key
    · rw [withAliases_cons_self hself, ih]
      grind
    · rw [withAliases_cons hself, ih, Table.get?_put]
      grind

theorem get?_aliases_store (r : Registry γ) (key : String) (g : γ) (aliases : List String)
    (word : String) :
    Table.get? (r.store key g aliases).aliases word =
      if word ≠ key ∧ word ∈ aliases.map Text.lowerString then some key
      else Table.get? r.aliases word :=
  get?_aliases_withAliases _ _ _ _

/-- A registration stores its generator unless the language is listed and stays as it is. -/
def Opens (r : Registry γ) (language : String) (replace : Bool) : Prop :=
  Table.has r.generators (Text.lowerString language) = false ∨ replace = true

/-- All that a registration can do: nothing, or store its generator with the aliases up to one that
is refused. -/
inductive Effect (r : Registry γ) (language : String) (generator : Option γ)
    (aliases : List String) (replace : Bool) : Registry γ × Except RegistryError Unit → Prop
  | kept {result} (h : ∀ g, generator = some g → ¬r.Opens language replace) :
      Effect r language generator aliases replace (r, result)
  | stored {g accepted rest result} (hgenerator : generator = some g)
      (hopens : r.Opens language replace) (haliases : aliases = accepted ++ rest)
      (haccepted : replace = false → ∀ a ∈ accepted, ¬r.Refuses (Text.lowerString language) a)
      (hrest : rest = [] ∧ result = .ok () ∨ r.Splits language generator aliases replace) :
      Effect r language generator aliases replace
        (r.store (Text.lowerString language) g accepted, result)

theorem effect_register (r : Registry γ) (language : String) (generator : Option γ)
    (aliases : List String) (replace : Bool) :
    r.Effect language generator aliases replace
      (r.register language generator aliases replace) := by
  unfold register
  cases generator with
  | none =>
    refine .kept ?_
    intro g hg
    cases hg
  | some g =>
    simp only
    split
    · next hlisted =>
      refine .kept ?_
      intro _ _ hopens
      rw [Bool.and_eq_true, Bool.not_eq_true'] at hlisted
      rcases hopens with hopens | hopens
      · rw [hlisted.1] at hopens
        cases hopens
      · rw [hlisted.2] at hopens
        cases hopens
    · next hopen =>
      have hopens : r.Opens language replace := by
        cases replace <;> simp_all [Opens]
      cases replace with
      | true =>
        rw [addAliases_forced]
        exact .stored rfl hopens (List.append_nil _).symm (fun h => Bool.noConfusion h)
          (Or.inl ⟨rfl, rfl⟩)
      | false =>
        have hnew : Table.has r.generators (Text.lowerString language) = false := by
          simpa using hopen
        by_cases hrefused : ∃ a ∈ aliases, r.Refuses (Text.lowerString language) a
        · obtain ⟨other, hmem, hrefuses⟩ := hrefused
          obtain ⟨accepted, first, rest, rfl, hfirst, haccepted⟩ :=
            exists_first_refused hmem hrefuses
          -- The generator is stored by now, but that makes no other alias refused.
          obtain ⟨e, he⟩ := addAliases_refused rest
            (fun a ha => mt refuses_generators_iff.mp (haccepted a ha))
            ((refuses_generators_iff (g := g)).mpr hfirst)
          rw [he]
          exact .stored rfl hopens rfl (fun _ => haccepted)
            (Or.inr ⟨rfl, rfl, hnew, other, hmem, hrefuses⟩)
        · have haccepted : ∀ a ∈ aliases, ¬r.Refuses (Text.lowerString language) a :=
            fun a ha hrefuses => hrefused ⟨a, ha, hrefuses⟩
          rw [addAliases_accepted fun a ha => mt refuses_generators_iff.mp (haccepted a ha)]
          exact .stored rfl hopens (List.append_nil _).symm (fun _ => haccepted)
            (Or.inl ⟨rfl, rfl⟩)

/-! ## What a name finds -/

theorem resolve_eq (r : Registry γ) (name : String) :
    r.resolve name =
      (Table.get? r.aliases (Text.lowerString name)).getD (Text.lowerString name) := rfl

theorem find_eq_ok_iff {r : Registry γ} {name : String} {g : γ} :
    r.find name = .ok g ↔ Table.get? r.generators (r.resolve name) = some g := by
  unfold find
  cases Table.get? r.generators (r.resolve name) <;> simp

theorem exists_find_of_supports {r : Registry γ} {name : String} (h : r.supports name = true) :
    ∃ g, r.find name = .ok g := by
  obtain ⟨g, hg⟩ := Option.isSome_iff_exists.mp h
  exact ⟨g, find_eq_ok_iff.mpr hg⟩

theorem resolve_store (r : Registry γ) (key : String) (g : γ) (aliases : List String)
    (name : String) :
    (r.store key g aliases).resolve name =
      if Text.lowerString name ≠ key ∧ Text.lowerString name ∈ aliases.map Text.lowerString then key
      else r.resolve name := by
  rw [resolve_eq, get?_aliases_store]
  split <;> rfl

theorem refuses_of_find {r : Registry γ} {key other name : String} {g : γ}
    (hfind : r.find name = .ok g) (hkey : Table.has r.generators key = false)
    (hother : Text.lowerString other = Text.lowerString name) (hne : Text.lowerString name ≠ key) :
    r.Refuses key other := by
  rw [find_eq_ok_iff, resolve_eq] at hfind
  rw [Refuses, hother]
  refine ⟨hne, ?_⟩
  cases howner : Table.get? r.aliases (Text.lowerString name) with
  | none =>
    rw [howner] at hfind
    exact Or.inl (Option.isSome_of_eq_some hfind)
  | some owner =>
    rw [howner] at hfind
    refine Or.inr ⟨owner, rfl, ?_⟩
    rintro rfl
    rw [Table.has, show Table.get? r.generators owner = some g from hfind] at hkey
    cases hkey

theorem find_register {r : Registry γ} {name : String} {g : γ} (hfind : r.find name = .ok g)
    (language : String) (generator : Option γ) (aliases : List String) :
    (r.register language generator aliases false).1.find name = .ok g := by
  have heffect := r.effect_register language generator aliases false
  generalize r.register language generator aliases false = out at heffect ⊢
  cases heffect with
  | kept => exact hfind
  | @stored g' accepted rest result _ hopens _ haccepted _ =>
    have hnew : Table.has r.generators (Text.lowerString language) = false := by
      simpa [Opens] using hopens
    rw [find_eq_ok_iff, resolve_store, if_neg, get?_generators_store, if_neg]
    · exact find_eq_ok_iff.mp hfind
    · intro hkey
      rw [hkey, Table.has, find_eq_ok_iff.mp hfind] at hnew
      cases hnew
    · -- None of the new aliases takes the name: it would have been refused.
      rintro ⟨hne, hmem⟩
      obtain ⟨other, hother, heq⟩ := List.mem_map.mp hmem
      exact haccepted rfl other hother (refuses_of_find hfind hnew heq hne)

/-! ## Sound registries -/

/-- Languages and aliases are distinct, languages are in small letters, and an alias points to
another name, which is a language. -/
structure Sound (r : Registry γ) : Prop where
  languages_nodup : (Table.keys r.generators).Nodup
  aliases_nodup : (Table.keys r.aliases).Nodup
  small : ∀ language ∈ Table.keys r.generators, Text.lowerString language = language
  listed : ∀ word target, Table.get? r.aliases word = some target →
    target ∈ Table.keys r.generators
  proper : ∀ word target, Table.get? r.aliases word = some target → word ≠ target

theorem sound_empty : Sound ({} : Registry γ) where
  languages_nodup := List.nodup_nil
  aliases_nodup := List.nodup_nil
  small := nofun
  listed := nofun
  proper := nofun

theorem sound_store {r : Registry γ} (hr : r.Sound) (language : String) (g : γ)
    (aliases : List String) : (r.store (Text.lowerString language) g aliases).Sound where
  languages_nodup := Table.nodup_keys_put _ _ _ hr.languages_nodup
  aliases_nodup := Table.nodup_keys_putAll _ _ hr.aliases_nodup
  small := by
    intro other hother
    rcases (Table.mem_keys_put _ _ _ _).mp hother with hother | rfl
    · exact hr.small other hother
    · exact Text.lowerString_lowerString language
  listed := by
    intro word target hword
    refine (Table.mem_keys_put _ _ _ _).mpr ?_
    rw [get?_aliases_store] at hword
    split at hword
    · exact Or.inr (Option.some.inj hword).symm
    · exact Or.inl (hr.listed word target hword)
  proper := by
    intro word target hword
    rw [get?_aliases_store] at hword
    split at hword
    · next hmem => exact Option.some.inj hword ▸ hmem.1
    · exact hr.proper word target hword

theorem sound_register {r : Registry γ} (hr : r.Sound) (language : String) (generator : Option γ)
    (aliases : List String) (replace : Bool) :
    (r.register language generator aliases replace).1.Sound := by
  have heffect := r.effect_register language generator aliases replace
  generalize r.register language generator aliases replace = out at heffect ⊢
  cases heffect with
  | kept => exact hr
  | stored => exact sound_store hr language _ _

/-! ## Removals -/

theorem get?_generators_unregister {r : Registry γ} (hr : r.Sound) (name language : String) :
    Table.get? (r.unregister name).generators language =
      if language = r.resolve name then none else Table.get? r.generators language := by
  refine (Table.get?_filter hr.languages_nodup _ _).trans ?_
  split <;> cases Table.get? r.generators language <;> simp_all

theorem get?_aliases_unregister {r : Registry γ} (hr : r.Sound) (name word : String) :
    Table.get? (r.unregister name).aliases word =
      if Table.get? r.aliases word = some (r.resolve name) then none
      else Table.get? r.aliases word := by
  refine (Table.get?_filter hr.aliases_nodup _ _).trans ?_
  split <;> cases hword : Table.get? r.aliases word <;> simp_all

theorem resolve_unregister {r : Registry γ} (hr : r.Sound) {name other : String}
    (h : r.resolve other ≠ r.resolve name) :
    (r.unregister name).resolve other = r.resolve other := by
  rw [resolve_eq, get?_aliases_unregister hr, if_neg]
  · rfl
  · intro hother
    rw [resolve_eq r other, hother] at h
    exact h rfl

theorem sound_unregister {r : Registry γ} (hr : r.Sound) (name : String) :
    (r.unregister name).Sound where
  languages_nodup := Table.nodup_keys_filter hr.languages_nodup _
  aliases_nodup := Table.nodup_keys_filter hr.aliases_nodup _
  small := by
    intro language hlanguage
    exact hr.small language ((List.filter_sublist.map Prod.fst).mem hlanguage)
  listed := by
    intro word target hword
    rw [get?_aliases_unregister hr] at hword
    split at hword
    · cases hword
    · next hother =>
      -- An alias that is left does not lead to what is removed.
      have htarget : target ≠ r.resolve name := by
        rintro rfl
        exact hother hword
      rw [Table.mem_keys_iff, get?_generators_unregister hr, if_neg htarget,
        ← Table.mem_keys_iff]
      exact hr.listed word target hword
  proper := by
    intro word target hword
    rw [get?_aliases_unregister hr] at hword
    split at hword
    · cases hword
    · exact hr.proper word target hword

/-! ## Runs -/

/-- A call that may change a registry. -/
inductive Call (γ : Type) where
  | register (language : String) (generator : Option γ) (aliases : List String) (replace : Bool)
  | unregister (name : String)

def Call.run (r : Registry γ) : Call γ → Registry γ
  | register language generator aliases replace =>
    (r.register language generator aliases replace).1
  | unregister name => r.unregister name

/-- The registry after some calls on an empty one, be they refused or not. -/
def after (calls : List (Call γ)) : Registry γ := calls.foldl Call.run {}

theorem after_snoc (calls : List (Call γ)) (call : Call γ) :
    after (calls ++ [call]) = call.run (after calls) := by simp [after]

theorem sound_run {r : Registry γ} (hr : r.Sound) (call : Call γ) : (call.run r).Sound := by
  cases call with
  | register language generator aliases replace =>
    exact sound_register hr language generator aliases replace
  | unregister name => exact sound_unregister hr name

theorem sound_after (calls : List (Call γ)) : (after calls).Sound := by
  induction calls using List.reverseRecOn with
  | nil => exact sound_empty
  | append_singleton calls call ih =>
    rw [after_snoc]
    exact sound_run ih call

/-- **After any calls an alias points to a language that is registered, a registration that does not
replace leaves every name that finds a generator with it, and a removal takes away one language and
its aliases.** -/
theorem after_bookkeeping (calls : List (Call γ)) :
    let r := after calls
    (∀ word target, Table.get? r.aliases word = some target → target ∈ r.languages) ∧
    (∀ language generator aliases name, r.supports name = true →
      ∃ g, r.find name = .ok g ∧
        (r.register language generator aliases false).1.find name = .ok g) ∧
    ∀ name,
      (∀ language, Table.get? (r.unregister name).generators language =
        if language = r.resolve name then none else Table.get? r.generators language) ∧
      (∀ word, Table.get? (r.unregister name).aliases word =
        if Table.get? r.aliases word = some (r.resolve name) then none
        else Table.get? r.aliases word) ∧
      ∀ other, r.resolve other ≠ r.resolve name →
        (r.unregister name).resolve other = r.resolve other ∧
          ∀ g, r.find other = .ok g → (r.unregister name).find other = .ok g := by
  intro r
  have hr : r.Sound := sound_after calls
  refine ⟨?_, ?_, fun name =>
    ⟨get?_generators_unregister hr name, get?_aliases_unregister hr name, ?_⟩⟩
  · intro word target hword
    exact mem_languages.mpr (hr.listed word target hword)
  · intro language generator aliases name hname
    obtain ⟨g, hg⟩ := exists_find_of_supports hname
    exact ⟨g, hg, find_register hg language generator aliases⟩
  · intro other hother
    refine ⟨resolve_unregister hr hother, fun g hg => ?_⟩
    rw [find_eq_ok_iff, resolve_unregister hr hother, get?_generators_unregister hr,
      if_neg hother]
    exact find_eq_ok_iff.mp hg

/-- A registration that is refused leaves `o` as an alias, and a replacement takes `ts` over. -/
theorem after_bookkeeping_replaced :
    let calls : List (Call Nat) :=
      [.register "typescript" (some 0) ["ts"] false, .register "other" (some 1) ["o", "ts"] false,
        .register "third" (some 2) ["ts"] true]
    let r := after calls
    "third" ∈ r.languages ∧
      ((r.register "fourth" (some 3) ["typescript"] false).1.find "typescript").toOption = some 0 ∧
      (r.unregister "o").resolve "ts" = "third" ∧
      (∀ g, r.find "ts" = .ok g → (r.unregister "o").find "ts" = .ok g) ∧
      Table.get? (r.unregister "o").generators "other" = none := by
  intro calls r
  obtain ⟨hlisted, hregister, hremoved⟩ := after_bookkeeping calls
  obtain ⟨hgenerators, -, hkept⟩ := hremoved "o"
  have hts : r.resolve "ts" ≠ r.resolve "o" := by decide +kernel
  have hthird : r.resolve "ts" = "third" := by decide +kernel
  refine ⟨hlisted "ts" "third" (by decide +kernel), ?_, (hkept "ts" hts).1.trans hthird,
    (hkept "ts" hts).2, ?_⟩
  · obtain ⟨g, hbefore, hafter⟩ :=
      hregister "fourth" (some 3) ["typescript"] "typescript" (by decide +kernel)
    rw [hafter, ← hbefore]
    decide +kernel
  · rw [hgenerators, if_pos (by decide +kernel)]

end SchemaTypings.Registry
