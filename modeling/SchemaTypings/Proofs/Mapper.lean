import Mathlib.Data.List.TakeWhile
import SchemaTypings.Import.Mapper
import SchemaTypings.Proofs.Outcome

/-!
# What a mapper stands for
-/

open SchemaTypings.Outcome

namespace SchemaTypings.Mapper

/-! ## The expression -/

/-- The expression is the name that the imported symbol gets, or a dotted path from there. -/
def StartsAtImport (m : Mapper) : Prop :=
  ∀ i, m.source = some i → m.type = i.boundAs ∨
    ∃ head rest, i.boundAs = .text head ∧ m.type = .text (head ++ "." ++ rest)

theorem startsAtImport_inline (expression : String) : (inline expression).StartsAtImport := by
  intro i hi
  simp [inline] at hi

theorem startsAtImport_ofDefault (module boundAs : Value) :
    (ofDefault module boundAs).StartsAtImport := by
  intro i hi
  rw [← Option.some.inj hi]
  exact Or.inl rfl

theorem cut_at_dot {symbol : List Char} (h : '.' ∈ symbol) :
    ∃ rest, String.ofList symbol = String.ofList (symbol.takeWhile (· ≠ '.')) ++ "." ++ rest := by
  have hsplit := List.takeWhile_append_dropWhile (p := (· ≠ '.')) (l := symbol)
  cases hdrop : symbol.dropWhile (· ≠ '.') with
  | nil =>
    have hall := List.dropWhile_eq_nil_iff.mp hdrop '.' h
    simp at hall
  | cons c rest =>
    have hc := List.head?_dropWhile_not (· ≠ '.') symbol
    rw [hdrop] at hc
    have hc : c = '.' := by simpa using hc
    rw [hdrop, hc] at hsplit
    refine ⟨String.ofList rest, ?_⟩
    conv_lhs => rw [← hsplit]
    rw [← String.toList_inj]
    simp

theorem startsAtImport_ofIdentifier (module : Value) (identifier : List Char)
    (typeName suffix : String) :
    (ofIdentifier module identifier typeName suffix).StartsAtImport := by
  unfold ofIdentifier
  simp only
  split
  · exact startsAtImport_ofDefault _ _
  · split
    · next hdot =>
      intro i hi
      obtain ⟨rest, hrest⟩ := cut_at_dot (List.contains_iff_mem.mp hdot)
      rw [← Option.some.inj hi]
      exact Or.inr ⟨_, rest, rfl, congrArg Value.text hrest⟩
    · intro i hi
      rw [← Option.some.inj hi]
      exact Or.inl rfl

theorem startsAtImport_ofObject {fields : Table String Value} {typeName suffix : String}
    {m : Mapper} (h : ofObject fields typeName suffix = .ok m) : m.StartsAtImport := by
  unfold ofObject at h
  simp only at h
  split at h
  · split at h
    · rw [← Except.ok.inj h]
      exact startsAtImport_ofDefault _ _
    · split at h
      · rw [← Except.ok.inj h]
        exact startsAtImport_ofIdentifier _ _ _ _
      · split at h
        · rw [← Except.ok.inj h]
          exact startsAtImport_ofIdentifier _ _ _ _
        · cases h
  · cases h

theorem startsAtImport_ofValue {v : Value} {typeName suffix : String} {m : Mapper}
    (h : ofValue v typeName suffix = .ok m) : m.StartsAtImport := by
  unfold ofValue at h
  split at h
  · exact startsAtImport_ofObject h
  · split at h
    · rw [← Except.ok.inj h]
      exact startsAtImport_ofIdentifier _ _ _ _
    · rw [← Except.ok.inj h]
      exact startsAtImport_inline _
  · rw [← Except.ok.inj h]
    exact startsAtImport_inline _

end SchemaTypings.Mapper
