import Mathlib.Data.List.Induction
import Mathlib.Data.List.Nodup
import SchemaTypings.Table

/-!
# The order of keys in a table

The keys of a table stand in the order in which they were first written. Writing the pairs of a
table again gives the same table, and keys that get other names keep their places as long as no two
of them get the same one.
-/

namespace SchemaTypings

/-! ## Items at their first places -/

theorem eraseDups_snoc {α : Type} [BEq α] [LawfulBEq α] (items : List α) (a : α) :
    (items ++ [a]).eraseDups = if a ∈ items then items.eraseDups else items.eraseDups ++ [a] := by
  rw [List.eraseDups_append]
  split <;> simp_all [List.removeAll, List.eraseDups_cons]

theorem nodup_eraseDups {α : Type} [BEq α] [LawfulBEq α] (items : List α) :
    items.eraseDups.Nodup := by
  induction items using List.reverseRecOn with
  | nil => exact List.nodup_nil
  | append_singleton items a ih =>
    rw [eraseDups_snoc]
    split
    · exact ih
    · next hnew =>
      rw [← List.concat_eq_append]
      exact ih.concat fun ha => hnew (List.mem_eraseDups.mp ha)

theorem eraseDups_of_nodup {α : Type} [BEq α] [LawfulBEq α] {items : List α} (h : items.Nodup) :
    items.eraseDups = items := by
  induction items using List.reverseRecOn with
  | nil => rfl
  | append_singleton items a ih =>
    obtain ⟨hitems, -, hnew⟩ := List.nodup_append.mp h
    rw [eraseDups_snoc, if_neg fun ha => hnew a ha a List.mem_cons_self rfl, ih hitems]

theorem eraseDups_append_filter {α : Type} [BEq α] [LawfulBEq α] {known items : List α}
    {p : α → Bool} (h : ∀ a ∈ items, p a = false → a ∈ known) :
    (known ++ items.filter p).eraseDups = (known ++ items).eraseDups := by
  rw [List.eraseDups_append, List.eraseDups_append, List.removeAll, List.removeAll,
    List.filter_filter]
  congr 2
  refine List.filter_congr fun a ha => ?_
  cases hp : p a with
  | true => exact Bool.and_true _
  | false => simp [h a ha hp]

/-! ## Keys of a written table -/

namespace Table

variable {κ α : Type} [DecidableEq κ]

theorem putAll_concat (t u : Table κ α) (p : κ × α) :
    putAll t (u ++ [p]) = put (putAll t u) p.1 p.2 := by
  simp [putAll]

theorem keys_putAll {t : Table κ α} (h : (keys t).Nodup) (pairs : List (κ × α)) :
    keys (putAll t pairs) = (keys t ++ keys pairs).eraseDups := by
  induction pairs using List.reverseRecOn with
  | nil => exact ((congrArg _ (List.append_nil _)).trans (eraseDups_of_nodup h)).symm
  | append_singleton pairs p ih =>
    have hkeys : keys (pairs ++ [p]) = keys pairs ++ [p.1] := List.map_append
    rw [putAll_concat, keys_put, ih, hkeys, ← List.append_assoc, eraseDups_snoc]
    simp only [List.mem_eraseDups]

theorem keys_ofPairs (pairs : List (κ × α)) : keys (ofPairs pairs) = (keys pairs).eraseDups :=
  keys_putAll (t := []) List.nodup_nil pairs

theorem ofPairs_of_nodup {t : Table κ α} (h : (keys t).Nodup) : ofPairs t = t := by
  have hput : ∀ done : Table κ α, (keys (done ++ t)).Nodup → putAll done t = done ++ t := by
    clear h
    induction t with
    | nil => exact fun done _ => (List.append_nil done).symm
    | cons p rest ih =>
      intro done h
      have hp : p.1 ∉ keys done := by
        rw [keys, List.map_append, List.nodup_append] at h
        exact fun hp => h.2.2 _ hp _ List.mem_cons_self rfl
      rw [List.append_cons] at h ⊢
      rw [putAll, List.foldl_cons, put_of_notMem hp]
      exact ih _ h
  exact hput [] h

theorem get?_mapValues {β : Type} (f : α → β) (t : Table κ α) (k : κ) :
    get? (t.map fun p => (p.1, f p.2)) k = (get? t k).map f := by
  induction t with
  | nil => rfl
  | cons p rest ih =>
    rw [List.map_cons, get?, get?]
    split
    · rfl
    · exact ih

/-! ## Other names for the keys -/

variable {κ' : Type} [DecidableEq κ']

/-- The same values under other keys. -/
def rename (f : κ → κ') (t : List (κ × α)) : List (κ' × α) := t.map fun p => (f p.1, p.2)

omit [DecidableEq κ] [DecidableEq κ'] in
theorem mem_keys_rename {f : κ → κ'} {t : List (κ × α)} {k : κ'} :
    k ∈ keys (rename f t) ↔ ∃ p ∈ t, f p.1 = k := by
  simp [keys, rename]

theorem rename_put {f : κ → κ'} {t : Table κ α} {k : κ} (hf : ∀ j ∈ keys t, f j = f k → j = k)
    (v : α) : put (rename f t) (f k) v = rename f (put t k v) := by
  induction t with
  | nil => rfl
  | cons p rest ih =>
    rw [keys, List.map_cons, List.forall_mem_cons] at hf
    rw [rename, List.map_cons, put, put]
    by_cases hp : p.1 = k
    · rw [if_pos hp, if_pos (congrArg f hp)]
      rfl
    · rw [if_neg hp, if_neg fun h => hp (hf.1 h)]
      exact congrArg _ (ih hf.2)

theorem ofPairs_rename {f : κ → κ'} {pairs : List (κ × α)}
    (hf : ∀ j ∈ keys pairs, ∀ k ∈ keys pairs, f j = f k → j = k) :
    ofPairs (rename f pairs) = rename f (ofPairs pairs) := by
  induction pairs using List.reverseRecOn with
  | nil => rfl
  | append_singleton pairs p ih =>
    have hkeys : keys (pairs ++ [p]) = keys pairs ++ [p.1] := List.map_append
    have hlast : rename f (pairs ++ [p]) = rename f pairs ++ [(f p.1, p.2)] := List.map_append
    rw [hkeys] at hf
    have hpairs := ih fun j hj k hk =>
      hf j (List.mem_append_left _ hj) k (List.mem_append_left _ hk)
    rw [hlast, ofPairs, putAll_concat, ← ofPairs, hpairs, ofPairs, ofPairs, putAll_concat]
    refine rename_put (fun j hj => ?_) p.2
    rw [← ofPairs, keys_ofPairs, List.mem_eraseDups] at hj
    exact hf j (List.mem_append_left _ hj) p.1 (List.mem_append_right _ List.mem_cons_self)

end Table

end SchemaTypings
