import SchemaTypings.Proofs.RegistryRuns

/-!
# Which generator a language reaches

An alias goes before a language of the same name. A replacement may put an alias over a language
that is listed, and no other call does. The generator that a language then reaches is the one of the
alias.
-/

namespace SchemaTypings.Registry

variable {γ : Type}

/-! ## What the calls of a run did last -/

/-- Some call of a run did `P`, and none after it did `Q`. -/
inductive Since (P Q : Registry γ → Call γ → Prop) : List (Call γ) → Prop
  | now {calls call} (h : P (after calls) call) : Since P Q (calls ++ [call])
  | still {calls call} (h : Since P Q calls) (hcall : ¬Q (after calls) call) :
      Since P Q (calls ++ [call])

/-- The call stores a generator for a language and is not refused. -/
def Accepts (language : String) (g : γ) (r : Registry γ) : Call γ → Prop
  | .register name generator aliases replace =>
    Text.lowerString name = language ∧ generator = some g ∧ r.Opens name replace ∧
      (r.register name generator aliases replace).2 = .ok ()
  | .unregister _ => False

/-- The call makes a word an alias of another language, whatever it was before. -/
def Forces (word target : String) : Call γ → Prop
  | .register name generator aliases replace =>
    Text.lowerString name = target ∧ generator.isSome = true ∧ replace = true ∧ word ≠ target ∧
      word ∈ aliases.map Text.lowerString
  | .unregister _ => False

def Removes (language : String) (r : Registry γ) : Call γ → Prop
  | .register .. => False
  | .unregister name => r.resolve name = language

/-- The generator that was accepted last for a language. -/
def Accepted (calls : List (Call γ)) (language : String) (g : γ) : Prop :=
  Since (Accepts language g) (fun r call => ∃ g', Accepts language g' r call) calls

/-- A word was forced to be an alias of a language, and neither forced to be one of another language
since nor was its language removed. -/
def Overridden (calls : List (Call γ)) (word target : String) : Prop :=
  Since (fun _ => Forces word target)
    (fun r call => (∃ other, Forces word other call) ∨ Removes target r call) calls

/-- A call that would register a language is not refused for an alias, and does not find its name to
be an alias already. -/
def Tidy (language : String) (r : Registry γ) : Call γ → Prop
  | .register name generator aliases replace =>
    Text.lowerString name = language →
      ¬r.Splits name generator aliases replace ∧
      (Table.has r.generators language = false → generator.isSome = true →
        Table.get? r.aliases language = none)
  | .unregister _ => True

def Orderly (language : String) (calls : List (Call γ)) : Prop :=
  ∀ before call, before ++ [call] <+: calls → Tidy language (after before) call

theorem since_snoc_iff {P Q : Registry γ → Call γ → Prop} {calls : List (Call γ)} {call : Call γ} :
    Since P Q (calls ++ [call]) ↔
      P (after calls) call ∨ Since P Q calls ∧ ¬Q (after calls) call := by
  refine ⟨fun h => ?_, fun h => h.elim .now fun h => .still h.1 h.2⟩
  generalize hall : calls ++ [call] = all at h
  cases h with
  | now h =>
    obtain ⟨rfl, rfl⟩ := List.append_singleton_inj.mp hall
    exact Or.inl h
  | still h hcall =>
    obtain ⟨rfl, rfl⟩ := List.append_singleton_inj.mp hall
    exact Or.inr ⟨h, hcall⟩

theorem orderly_snoc_iff {language : String} {calls : List (Call γ)} {call : Call γ} :
    Orderly language (calls ++ [call]) ↔
      Orderly language calls ∧ Tidy language (after calls) call := by
  constructor
  · intro h
    exact ⟨fun before c hc => h before c (hc.trans (List.prefix_append calls [call])),
      h calls call (List.prefix_refl _)⟩
  · rintro ⟨h, hcall⟩ before c hc
    rcases List.prefix_concat_iff.mp hc with hall | hc
    · obtain ⟨rfl, rfl⟩ := List.append_singleton_inj.mp hall
      exact hcall
    · exact h before c hc

theorem orderly_nil {language : String} : Orderly language ([] : List (Call γ)) := by
  intro before call h
  simp at h

/-! ## One call -/

variable {r : Registry γ} {word language target : String} {g : γ} {call : Call γ}

theorem get?_aliases_run_of_forces (h : Forces word target call) :
    Table.get? (call.run r).aliases word = some target := by
  cases call with
  | unregister => exact h.elim
  | register name generator aliases replace =>
    obtain ⟨rfl, hgenerator, rfl, hne, hmem⟩ := h
    obtain ⟨g, rfl⟩ := Option.isSome_iff_exists.mp hgenerator
    have hrun : (r.register name (some g) aliases true).1 =
        r.store (Text.lowerString name) g aliases := by
      simp [register, addAliases_forced, store]
    rw [Call.run, hrun, get?_aliases_store, if_pos ⟨hne, hmem⟩]

theorem accepted_of_not_forces {name : String} {generator : Option γ}
    {aliases accepted : List String} {replace : Bool}
    (hforces : ¬Forces word (Text.lowerString name) (.register name generator aliases replace))
    (hgenerator : generator.isSome = true) (hsub : accepted ⊆ aliases)
    (haccepted : replace = false → ∀ a ∈ accepted, ¬r.Refuses (Text.lowerString name) a)
    (hne : word ≠ Text.lowerString name) (hmem : word ∈ accepted.map Text.lowerString) :
    Table.has r.generators word = false ∧
      ∀ owner, Table.get? r.aliases word = some owner → owner = Text.lowerString name := by
  have hreplace : replace = false := by
    rw [← Bool.not_eq_true]
    exact fun h => hforces ⟨rfl, hgenerator, h, hne, List.map_subset _ hsub hmem⟩
  obtain ⟨a, ha, rfl⟩ := List.mem_map.mp hmem
  have hallowed := haccepted hreplace a ha
  simp only [Refuses, ne_eq, hne, not_false_eq_true, true_and, not_or, not_exists, not_and,
    Decidable.not_not, Bool.not_eq_true] at hallowed
  exact hallowed

theorem get?_aliases_run_of_kept (hr : r.Sound) (h : Table.get? r.aliases word = some target)
    (hforces : ∀ other, ¬Forces word other call) (hremoves : ¬Removes target r call) :
    Table.get? (call.run r).aliases word = some target := by
  cases call with
  | unregister name =>
    rw [Call.run, get?_aliases_unregister hr, if_neg, h]
    rw [h]
    exact fun heq => hremoves (Option.some.inj heq).symm
  | register name generator aliases replace =>
    rw [Call.run]
    have heffect := r.effect_register name generator aliases replace
    generalize r.register name generator aliases replace = out at heffect ⊢
    cases heffect with
    | kept => exact h
    | stored hgenerator _ haliases haccepted =>
      rw [get?_aliases_store]
      split
      · next hmem =>
        -- Without force an alias is accepted only for the language that has it.
        have hallowed := accepted_of_not_forces (hforces _) (Option.isSome_of_eq_some hgenerator)
          (haliases ▸ List.subset_append_left _ _) haccepted hmem.1 hmem.2
        rw [hallowed.2 target h]
      · exact h

/-- Only a forced alias comes over a language. -/
theorem get?_aliases_of_run (hr : r.Sound) (htidy : Tidy language r call)
    (hlisted : language ∈ Table.keys (call.run r).generators)
    (h : Table.get? (call.run r).aliases language = some target)
    (hforces : ¬Forces language target call) :
    language ∈ Table.keys r.generators ∧ Table.get? r.aliases language = some target := by
  cases call with
  | unregister name =>
    rw [Call.run, Table.mem_keys_iff, get?_generators_unregister hr] at hlisted
    rw [Call.run, get?_aliases_unregister hr] at h
    rw [Table.mem_keys_iff]
    split at hlisted
    · cases hlisted
    · split at h
      · cases h
      · exact ⟨hlisted, h⟩
  | register name generator aliases replace =>
    rw [Call.run] at hlisted h
    have heffect := r.effect_register name generator aliases replace
    generalize r.register name generator aliases replace = out at heffect hlisted h
    cases heffect with
    | kept => exact ⟨hlisted, h⟩
    | stored hgenerator _ haliases haccepted =>
      have hisSome := Option.isSome_of_eq_some hgenerator
      rw [get?_aliases_store] at h
      rcases (Table.mem_keys_put _ _ _ _).mp hlisted with hlisted | rfl
      · refine ⟨hlisted, ?_⟩
        split at h
        · next hmem =>
          obtain rfl := Option.some.inj h
          have hallowed := accepted_of_not_forces hforces hisSome
            (haliases ▸ List.subset_append_left _ _) haccepted hmem.1 hmem.2
          rw [Table.mem_keys_iff, ← Table.has, hallowed.1] at hlisted
          cases hlisted
        · exact h
      · rw [if_neg fun hmem => hmem.1 rfl] at h
        refine ⟨?_, h⟩
        rw [Table.mem_keys_iff, ← Table.has, ← Bool.not_eq_false]
        -- A new language would have an alias over it already, which a tidy call rules out.
        intro hnew
        rw [(htidy rfl).2 hnew hisSome] at h
        cases h

theorem accepts_of_get?_generators (hr : r.Sound) (htidy : Tidy language r call)
    (h : Table.get? (call.run r).generators language = some g) :
    Accepts language g r call ∨
      Table.get? r.generators language = some g ∧ ∀ g', ¬Accepts language g' r call := by
  cases call with
  | unregister name =>
    rw [Call.run, get?_generators_unregister hr] at h
    split at h
    · cases h
    · exact Or.inr ⟨h, fun _ => id⟩
  | register name generator aliases replace =>
    rw [Call.run] at h
    have heffect := r.effect_register name generator aliases replace
    generalize hout : r.register name generator aliases replace = out at heffect h
    cases heffect with
    | kept hkept => exact Or.inr ⟨h, fun g' hg' => hkept g' hg'.2.1 hg'.2.2.1⟩
    | stored hgenerator hopens _ _ hrest =>
      rw [get?_generators_store] at h
      split at h
      · next hname =>
        have hresult := (hrest.resolve_right (htidy hname).1).2
        exact Or.inl ⟨hname, h ▸ hgenerator, hopens, (congrArg Prod.snd hout).trans hresult⟩
      · next hname => exact Or.inr ⟨h, fun g' hg' => hname hg'.1⟩

/-! ## A whole run -/

variable {calls : List (Call γ)}

theorem get?_aliases_of_overridden (h : Overridden calls word target) :
    Table.get? (after calls).aliases word = some target := by
  unfold Overridden at h
  induction h with
  | now hcall =>
    rw [after_snoc]
    exact get?_aliases_run_of_forces hcall
  | still _ hcall ih =>
    rw [not_or, not_exists] at hcall
    rw [after_snoc]
    exact get?_aliases_run_of_kept (sound_after _) ih hcall.1 hcall.2

theorem overridden_of_get?_aliases (hcalls : Orderly language calls)
    (hlisted : language ∈ Table.keys (after calls).generators)
    (h : Table.get? (after calls).aliases language = some target) :
    Overridden calls language target := by
  induction calls using List.reverseRecOn with
  | nil => cases h
  | append_singleton calls call ih =>
    obtain ⟨hcalls, htidy⟩ := orderly_snoc_iff.mp hcalls
    rw [after_snoc] at hlisted h
    refine since_snoc_iff.mpr ?_
    by_cases hforces : Forces language target call
    · exact Or.inl hforces
    · obtain ⟨hbefore, halias⟩ :=
        get?_aliases_of_run (sound_after calls) htidy hlisted h hforces
      refine Or.inr ⟨ih hcalls hbefore halias, ?_⟩
      rintro (⟨other, hother⟩ | hremoves)
      · rw [get?_aliases_run_of_forces hother] at h
        exact hforces (Option.some.inj h ▸ hother)
      · cases call with
        | register => exact hremoves
        | unregister name =>
          rw [Call.run, get?_aliases_unregister (sound_after calls), halias,
            if_pos (congrArg some hremoves.symm)] at h
          cases h

theorem accepted_of_get?_generators (hcalls : Orderly language calls)
    (h : Table.get? (after calls).generators language = some g) : Accepted calls language g := by
  induction calls using List.reverseRecOn with
  | nil => cases h
  | append_singleton calls call ih =>
    obtain ⟨hcalls, htidy⟩ := orderly_snoc_iff.mp hcalls
    rw [after_snoc] at h
    refine since_snoc_iff.mpr ?_
    rcases accepts_of_get?_generators (sound_after calls) htidy h with haccepts | ⟨h, hnone⟩
    · exact Or.inl haccepts
    · exact Or.inr ⟨ih hcalls h, not_exists.mpr hnone⟩

/-- A name stands for a language, finds its generator, and its removal takes away that language
alone. -/
structure Reaches (r : Registry γ) (name target : String) (g : γ) : Prop where
  resolves : r.resolve name = target
  finds : r.find name = .ok g
  removes : ∀ other, other ∈ (r.unregister name).languages ↔ other ∈ r.languages ∧ other ≠ target

theorem reaches_of_get?_generators (hr : r.Sound) {name : String}
    (hresolve : r.resolve name = target)
    (h : Table.get? r.generators target = some g) : r.Reaches name target g where
  resolves := hresolve
  finds := find_eq_ok_iff.mpr (hresolve ▸ h)
  removes := by
    intro other
    rw [mem_languages, mem_languages, Table.mem_keys_iff, Table.mem_keys_iff,
      get?_generators_unregister hr, hresolve]
    split <;> simp [*]

/-- **A language that is listed reaches the generator that was accepted last for it, unless a
replacement put an alias over it. Then it reaches the language of that alias.** -/
theorem languages_reach (hcalls : Orderly language calls)
    (hlisted : language ∈ (after calls).languages) :
    let r := after calls
    ∃ g, Accepted calls language g ∧
      ((∀ other, ¬Overridden calls language other) →
        Table.get? r.aliases language = none ∧ r.Reaches language language g) ∧
      ∀ other, Overridden calls language other → other ≠ language ∧
        ∃ g', Table.get? r.generators other = some g' ∧ r.Reaches language other g' := by
  intro r
  have hr : r.Sound := sound_after calls
  have hkey : language ∈ Table.keys r.generators := mem_languages.mp hlisted
  obtain ⟨g, hg⟩ := Option.isSome_iff_exists.mp ((Table.mem_keys_iff _ _).mp hkey)
  have hresolve : r.resolve language = (Table.get? r.aliases language).getD language := by
    rw [resolve_eq, hr.small language hkey]
  refine ⟨g, accepted_of_get?_generators hcalls hg, ?_, ?_⟩
  · intro hnone
    have halias : Table.get? r.aliases language = none := by
      rw [Option.eq_none_iff_forall_not_mem]
      exact fun other hother => hnone other (overridden_of_get?_aliases hcalls hkey hother)
    rw [halias] at hresolve
    exact ⟨halias, reaches_of_get?_generators hr hresolve hg⟩
  · intro other hother
    have halias := get?_aliases_of_overridden hother
    obtain ⟨g', hg'⟩ :=
      Option.isSome_iff_exists.mp ((Table.mem_keys_iff _ _).mp (hr.listed language other halias))
    rw [halias] at hresolve
    exact ⟨(hr.proper language other halias).symm, g', hg',
      reaches_of_get?_generators hr hresolve hg'⟩

/-- The second call puts an alias over `typescript`, and `other` stays within reach. -/
theorem languages_reach_forced :
    let first : Call Nat := .register "typescript" (some 0) ["ts"] false
    let second : Call Nat := .register "other" (some 1) ["typescript"] true
    let calls := [first, second]
    let r := after calls
    Orderly "typescript" calls ∧ "typescript" ∈ r.languages ∧
      Overridden calls "typescript" "other" ∧
      (∃ g', Table.get? r.generators "other" = some g' ∧ r.Reaches "typescript" "other" g') ∧
      Orderly "other" calls ∧ "other" ∈ r.languages ∧ (∀ other, ¬Overridden calls "other" other) ∧
      ∃ g, Accepted calls "other" g ∧ r.Reaches "other" "other" g := by
  intro first second calls r
  have hsplits : ∀ r : Registry Nat, ¬r.Splits "other" (some 1) ["typescript"] true :=
    fun _ h => nomatch h.2.1
  have hfirst : ¬(after []).Splits "typescript" (some 0) ["ts"] false := by
    rintro ⟨-, -, -, other, -, -, h | ⟨owner, h, -⟩⟩ <;> cases h
  have horderly : ∀ language, Orderly language calls := by
    intro language
    refine (@orderly_snoc_iff _ language [first] second).mpr
      ⟨(@orderly_snoc_iff _ language [] first).mpr ⟨orderly_nil, ?_⟩, ?_⟩
    · exact fun _ => ⟨hfirst, fun _ _ => rfl⟩
    · rintro rfl
      exact ⟨hsplits _, fun _ _ => by decide +kernel⟩
  have htypescript : "typescript" ∈ r.languages := mem_languages.mpr (by decide +kernel)
  have hother : "other" ∈ r.languages := mem_languages.mpr (by decide +kernel)
  have hforced : Overridden calls "typescript" "other" :=
    (@since_snoc_iff _ _ _ [first] second).mpr
      (Or.inl ⟨by decide +kernel, rfl, rfl, by decide, by decide +kernel⟩)
  have hnone : ∀ other, ¬Overridden calls "other" other := by
    intro other h
    have halias := get?_aliases_of_overridden h
    rw [show Table.get? (after calls).aliases "other" = none by decide +kernel] at halias
    cases halias
  obtain ⟨-, -, -, hover⟩ := languages_reach (horderly "typescript") htypescript
  obtain ⟨g, haccepted, hreach, -⟩ := languages_reach (horderly "other") hother
  exact ⟨horderly _, htypescript, hforced, (hover "other" hforced).2, horderly _, hother, hnone,
    g, haccepted, (hreach hnone).2⟩

/-- A replacement shadows a language that is listed. -/
theorem language_shadowed :
    let r : Registry Nat := after
      [.register "typescript" (some 0) [] false, .register "other" (some 1) ["typescript"] true]
    "typescript" ∈ r.languages ∧ r.resolve "typescript" ≠ "typescript" ∧
      Accepted [.register "typescript" (some 0) [] false,
        .register "other" (some 1) ["typescript"] true] "typescript" 0 ∧
      r.find "typescript" = .ok 1 ∧ "typescript" ∈ (r.unregister "typescript").languages ∧
      "other" ∉ (r.unregister "typescript").languages := by
  refine ⟨mem_languages.mpr (by decide +kernel), by decide +kernel, ?_,
    find_eq_ok_iff.mpr (by decide +kernel), mem_languages.mpr (by decide +kernel),
    mt mem_languages.mp (by decide +kernel)⟩
  refine (@since_snoc_iff _ _ _ [.register "typescript" (some 0) [] false] _).mpr (Or.inr ⟨?_, ?_⟩)
  · refine (@since_snoc_iff _ _ _ [] _).mpr (Or.inl ⟨by decide +kernel, rfl, Or.inl rfl, rfl⟩)
  · rintro ⟨g, hname, -⟩
    exact absurd hname (by decide +kernel)

end SchemaTypings.Registry
