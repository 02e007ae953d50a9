import SchemaTypings.Generator.Registry

/-!
# What a refused registration leaves behind

Aliases are checked one at a time, after the language itself is stored. A refused alias therefore
leaves the language and the aliases before it.
-/

namespace SchemaTypings.Registry

variable {γ : Type}

/-! ## Refused aliases -/

/-- An alias names another language, or it points to one. -/
def Refuses (r : Registry γ) (key other : String) : Prop :=
  Text.lowerString other ≠ key ∧
    (Table.has r.generators (Text.lowerString other) = true ∨
      ∃ owner, Table.get? r.aliases (Text.lowerString other) = some owner ∧ owner ≠ key)

theorem refusal?_eq_none_iff {r : Registry γ} {key other : String}
    (hother : Text.lowerString other ≠ key) :
    r.refusal? key other false = none ↔ ¬r.Refuses key other := by
  unfold refusal? Refuses
  cases hhas : Table.has r.generators (Text.lowerString other) with
  | true => simp [hother]
  | false =>
    cases howner : Table.get? r.aliases (Text.lowerString other) with
    | none => simp
    | some owner => simp [hother]

/-- The entries that point to a language; its own name is none. -/
def bindings (key : String) (others : List String) : List (String × String) :=
  (others.map Text.lowerString).filterMap fun other =>
    if other = key then none else some (other, key)

def withAliases (r : Registry γ) (key : String) (others : List String) : Registry γ :=
  { r with aliases := Table.putAll r.aliases (bindings key others) }

theorem withAliases_cons_self {r : Registry γ} {key other : String} {rest : List String}
    (h : Text.lowerString other = key) :
    r.withAliases key (other :: rest) = r.withAliases key rest := by
  simp [withAliases, bindings, h]

theorem withAliases_cons {r : Registry γ} {key other : String} {rest : List String}
    (h : Text.lowerString other ≠ key) :
    r.withAliases key (other :: rest) =
      withAliases { r with aliases := Table.put r.aliases (Text.lowerString other) key } key
        rest := by
  simp [withAliases, bindings, h, Table.putAll]

theorem refuses_put_iff {r : Registry γ} {key other other' : String}
    (h : ¬r.Refuses key other) (hother : Text.lowerString other ≠ key) :
    Refuses { r with aliases := Table.put r.aliases (Text.lowerString other) key } key other' ↔
      r.Refuses key other' := by
  unfold Refuses at h ⊢
  rw [Table.get?_put]
  split
  · next heq =>
    rw [← heq]
    simp_all
  · rfl

theorem refuses_generators_iff {r : Registry γ} {key other : String} {g : γ} :
    Refuses { r with generators := Table.put r.generators key g } key other ↔
      r.Refuses key other := by
  unfold Refuses Table.has
  refine and_congr_right fun hother => ?_
  rw [Table.get?_put, if_neg hother.symm]

theorem exists_first_refused {r : Registry γ} {key other : String} {others : List String}
    (hmem : other ∈ others) (h : r.Refuses key other) :
    ∃ accepted first rest, others = accepted ++ first :: rest ∧ r.Refuses key first ∧
      ∀ a ∈ accepted, ¬r.Refuses key a := by
  classical
  have hsome : (others.find? fun a => decide (r.Refuses key a)).isSome := by
    rw [List.find?_isSome]
    exact ⟨other, hmem, decide_eq_true h⟩
  obtain ⟨first, hfirst⟩ := Option.isSome_iff_exists.mp hsome
  obtain ⟨hrefuses, accepted, rest, hothers, haccepted⟩ := List.find?_eq_some_iff_append.mp hfirst
  exact ⟨accepted, first, rest, hothers, of_decide_eq_true hrefuses, by simpa using haccepted⟩

theorem addAliases_accepted {r : Registry γ} {key : String} {others : List String}
    (h : ∀ other ∈ others, ¬r.Refuses key other) :
    addAliases key false others r = (r.withAliases key others, .ok ()) := by
  induction others generalizing r with
  | nil => rfl
  | cons other rest ih =>
    rw [List.forall_mem_cons] at h
    rw [addAliases]
    split
    · next hself => rw [ih h.2, withAliases_cons_self hself]
    · next hother =>
      rw [(refusal?_eq_none_iff hother).mpr h.1, withAliases_cons hother]
      refine ih ?_
      intro other' hmem
      rw [refuses_put_iff h.1 hother]
      exact h.2 other' hmem

/-- Up to the first refused alias all are added. -/
theorem addAliases_refused {r : Registry γ} {key other : String} {accepted : List String}
    (rest : List String) (h : ∀ a ∈ accepted, ¬r.Refuses key a) (hother : r.Refuses key other) :
    ∃ e, addAliases key false (accepted ++ other :: rest) r =
      (r.withAliases key accepted, .error e) := by
  induction accepted generalizing r with
  | nil =>
    rw [List.nil_append, addAliases, if_neg hother.1]
    cases hrefusal : r.refusal? key other false with
    | none => exact absurd hother ((refusal?_eq_none_iff hother.1).mp hrefusal)
    | some e => exact ⟨e, rfl⟩
  | cons first accepted ih =>
    rw [List.forall_mem_cons] at h
    rw [List.cons_append, addAliases]
    split
    · next hself =>
      rw [withAliases_cons_self hself]
      exact ih h.2 hother
    · next hfirst =>
      rw [(refusal?_eq_none_iff hfirst).mpr h.1, withAliases_cons hfirst]
      -- The alias that was just added changes nothing for those that follow.
      refine ih ?_ ((refuses_put_iff h.1 hfirst).mpr hother)
      intro other' hmem
      rw [refuses_put_iff h.1 hfirst]
      exact h.2 other' hmem

theorem addAliases_forced (r : Registry γ) (key : String) (others : List String) :
    addAliases key true others r = (r.withAliases key others, .ok ()) := by
  induction others generalizing r with
  | nil => rfl
  | cons other rest ih =>
    rw [addAliases]
    split
    · next hself => rw [ih, withAliases_cons_self hself]
    · next hother =>
      rw [withAliases_cons hother]
      exact ih _

/-! ## A registration -/

/-- A new language is registered with an alias that is refused. -/
def Splits (r : Registry γ) (language : String) (generator : Option γ) (aliases : List String)
    (replace : Bool) : Prop :=
  generator.isSome = true ∧ replace = false ∧
    Table.has r.generators (Text.lowerString language) = false ∧
    ∃ other ∈ aliases, r.Refuses (Text.lowerString language) other

theorem register_of_not_splits {r : Registry γ} {language : String} {generator : Option γ}
    {aliases : List String} {replace : Bool} (h : ¬r.Splits language generator aliases replace)
    {e : RegistryError} (he : (r.register language generator aliases replace).2 = .error e) :
    (r.register language generator aliases replace).1 = r := by
  unfold register at he ⊢
  cases generator with
  | none => rfl
  | some g =>
    simp only at he ⊢
    split at he
    · cases he
    · next hnew =>
      cases replace with
      | true =>
        rw [addAliases_forced] at he
        cases he
      | false =>
        have haccepted : ∀ other ∈ aliases, ¬r.Refuses (Text.lowerString language) other :=
          fun other hmem hrefuses => h ⟨rfl, rfl, by simpa using hnew, other, hmem, hrefuses⟩
        rw [addAliases_accepted] at he
        · cases he
        · intro other hmem
          rw [refuses_generators_iff]
          exact haccepted other hmem

theorem mem_languages {r : Registry γ} {name : String} :
    name ∈ r.languages ↔ name ∈ Table.keys r.generators := List.mem_mergeSort

/-- What is left of a refused registration: the language, which was not listed before, and the
aliases before the first that is refused. -/
def LeavesHalf (r r' : Registry γ) (language : String) (generator : Option γ)
    (aliases : List String) : Prop :=
  let key := Text.lowerString language
  ∃ g accepted other rest, generator = some g ∧ aliases = accepted ++ other :: rest ∧
    (∀ a ∈ accepted, ¬r.Refuses key a) ∧ r.Refuses key other ∧
    r' = { generators := r.generators ++ [(key, g)],
           aliases := Table.putAll r.aliases (bindings key accepted) } ∧
    key ∉ r.languages ∧ key ∈ r'.languages

theorem register_of_splits {r : Registry γ} {language : String} {generator : Option γ}
    {aliases : List String} {replace : Bool} (h : r.Splits language generator aliases replace) :
    (∃ e, (r.register language generator aliases replace).2 = .error e) ∧
      r.LeavesHalf (r.register language generator aliases replace).1 language generator
        aliases := by
  obtain ⟨hgenerator, rfl, hnew, other, hmem, hrefuses⟩ := h
  obtain ⟨g, rfl⟩ := Option.isSome_iff_exists.mp hgenerator
  obtain ⟨accepted, first, rest, rfl, hfirst, haccepted⟩ := exists_first_refused hmem hrefuses
  -- A language that was there would have been refused before its aliases.
  have hkey : Text.lowerString language ∉ Table.keys r.generators := by
    rw [Table.mem_keys_iff]
    exact ne_true_of_eq_false hnew
  obtain ⟨e, he⟩ := addAliases_refused rest
    (fun a ha => mt refuses_generators_iff.mp (haccepted a ha))
    ((refuses_generators_iff (g := g)).mpr hfirst)
  have hregister : r.register language (some g) (accepted ++ first :: rest) false =
      ({ generators := r.generators ++ [(Text.lowerString language, g)],
         aliases := Table.putAll r.aliases (bindings (Text.lowerString language) accepted) },
        .error e) := by
    rw [Table.put_of_notMem hkey] at he
    simpa [register, hnew, Table.put_of_notMem hkey, withAliases] using he
  rw [hregister]
  refine ⟨⟨e, rfl⟩, g, accepted, first, rest, rfl, rfl, haccepted, hfirst, rfl, ?_, ?_⟩
  · rwa [mem_languages]
  · rw [mem_languages]
    simp [Table.keys]

/-- **A refused registration changes nothing, but where a new language is refused for an alias.** -/
theorem register_atomic_iff (r : Registry γ) (language : String) (generator : Option γ)
    (aliases : List String) (replace : Bool) :
    ((∀ e, (r.register language generator aliases replace).2 = .error e →
        (r.register language generator aliases replace).1 = r) ↔
      ¬r.Splits language generator aliases replace) ∧
    (r.Splits language generator aliases replace →
      (∃ e, (r.register language generator aliases replace).2 = .error e) ∧
        r.LeavesHalf (r.register language generator aliases replace).1 language generator
          aliases) := by
  refine ⟨⟨?_, fun h e he => register_of_not_splits h he⟩, register_of_splits⟩
  intro hatomic hsplits
  obtain ⟨⟨e, he⟩, g, accepted, other, rest, _, _, _, _, _, hbefore, hafter⟩ :=
    register_of_splits hsplits
  rw [hatomic e he] at hafter
  exact hbefore hafter

theorem register_atomic_iff_taken :
    let r : Registry Nat := (register {} "typescript" (some 0) ["ts"]).1
    r.Splits "other" (some 1) ["o", "ts"] false ∧
      ¬(∀ e, (r.register "other" (some 1) ["o", "ts"]).2 = .error e →
        (r.register "other" (some 1) ["o", "ts"]).1 = r) ∧
      "other" ∉ r.languages ∧ "other" ∈ (r.register "other" (some 1) ["o", "ts"]).1.languages ∧
      r.resolve "o" = "o" ∧ (r.register "other" (some 1) ["o", "ts"]).1.resolve "o" = "other" := by
  intro r
  have hsplits : r.Splits "other" (some 1) ["o", "ts"] false := by
    refine ⟨rfl, rfl, by decide +kernel, "ts", by simp, by decide +kernel, Or.inr ?_⟩
    exact ⟨"typescript", by decide +kernel, by decide⟩
  have hiff := register_atomic_iff r "other" (some 1) ["o", "ts"] false
  refine ⟨hsplits, ?_, ?_, ?_, by decide +kernel, by decide +kernel⟩
  · rw [hiff.1]
    exact not_not_intro hsplits
  · rw [mem_languages]
    decide +kernel
  · rw [mem_languages]
    decide +kernel

end SchemaTypings.Registry
