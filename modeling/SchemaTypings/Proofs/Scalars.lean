import SchemaTypings.Code.ScalarTable
import SchemaTypings.Proofs.Outcome

/-!
# The rows of the scalars

A row for each built-in scalar, each scalar of the schema and each mapped name.
-/

open SchemaTypings.Outcome

namespace SchemaTypings.Code.ScalarTable

theorem rows_of_ok {schema : Schema} {s : Settings} {t : ScalarTable}
    (h : ofSchema schema s = .ok t) :
    unknownScalar? schema s = none ∧ ∃ resolved,
      (namesToResolve schema s).mapM (fun name => do return (name, ← resolve s name)) =
        .ok resolved ∧ t.rows = Table.putAll builtinRows resolved := by
  unfold ofSchema at h
  cases hunknown : unknownScalar? schema s with
  | some name =>
    rw [hunknown] at h
    simp [throw, throwThe, MonadExceptOf.throw, bind, Except.bind] at h
  | none =>
    rw [hunknown] at h
    obtain ⟨resolved, hresolved, h⟩ := bind_eq_ok.mp h
    rw [pure_eq_ok] at h
    refine ⟨rfl, resolved, mapError_eq_ok.mp hresolved, ?_⟩
    rw [← h]

theorem has_row {schema : Schema} {s : Settings} {t : ScalarTable} (h : ofSchema schema s = .ok t)
    {name : String} (hname : name ∈ namesToResolve schema s) : name ∈ Table.keys t.rows := by
  obtain ⟨_, resolved, hresolved, hrows⟩ := rows_of_ok h
  obtain ⟨row, hrow, hmade⟩ := exists_mem_of_mapM hresolved hname
  obtain ⟨mapper, _, hmade⟩ := bind_eq_ok.mp hmade
  rw [pure_eq_ok] at hmade
  rw [hrows, Table.mem_keys_putAll]
  right
  exact List.mem_map.mpr ⟨row, hrow, by rw [← hmade]⟩

theorem mem_namesToResolve {schema : Schema} {s : Settings} {t : NamedType}
    (ht : t ∈ schema.userTypes) (hscalar : t.isScalar = true) :
    t.name ∈ namesToResolve schema s :=
  List.mem_append_left _ (List.mem_map.mpr ⟨t, List.mem_filter.mpr ⟨ht, hscalar⟩, rfl⟩)

theorem mem_list_iff {t : ScalarTable} {name : String} :
    (∃ r ∈ t.list, r.name = name) ↔ name ∈ Table.keys t.rows := by
  simp [list, Table.keys]

end SchemaTypings.Code.ScalarTable
