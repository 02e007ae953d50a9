/-!
# Tables in order of first writing

A table is a list of key and value pairs. Writing a key again keeps its place and takes the new
value, so the keys stay distinct and stand in the order in which they first came.
-/

namespace SchemaTypings

abbrev Table (κ α : Type) := List (κ × α)

namespace Table

variable {κ α : Type} [DecidableEq κ]

def get? (t : Table κ α) (k : κ) : Option α :=
  match t with
  | [] => none
  | (k', v) :: rest => if k' = k then some v else get? rest k

def has (t : Table κ α) (k : κ) : Bool := (get? t k).isSome

def keys (t : Table κ α) : List κ := t.map Prod.fst

def values (t : Table κ α) : List α := t.map Prod.snd

/-- Replaces the value in place, or adds the pair at the end. -/
def put (t : Table κ α) (k : κ) (v : α) : Table κ α :=
  match t with
  | [] => [(k, v)]
  | (k', v') :: rest => if k' = k then (k, v) :: rest else (k', v') :: put rest k v

/-- Writes the pairs one after the other. -/
def putAll (t : Table κ α) (pairs : List (κ × α)) : Table κ α :=
  pairs.foldl (fun t p => put t p.1 p.2) t

def ofPairs (pairs : List (κ × α)) : Table κ α := putAll [] pairs

def erase (t : Table κ α) (k : κ) : Table κ α := t.filter fun p => p.1 ≠ k

/-! ## Look-up after writing -/

theorem get?_put (t : Table κ α) (k j : κ) (v : α) :
    get? (put t k v) j = if k = j then some v else get? t j := by
  induction t with
  | nil => simp [put, get?]
  | cons p rest ih =>
    obtain ⟨k', v'⟩ := p
    grind [put, get?]

theorem get?_putAll (t : Table κ α) (pairs : List (κ × α)) (j : κ) :
    get? (putAll t pairs) j = (get? pairs.reverse j).or (get? t j) := by
  induction pairs generalizing t with
  | nil => simp [putAll, get?]
  | cons p rest ih =>
    have happ : ∀ (l : List (κ × α)) (q : κ × α),
        get? (l ++ [q]) j = (get? l j).or (if q.1 = j then some q.2 else none) := by
      intro l q
      induction l with
      | nil => simp [get?]
      | cons r l ih => by_cases h : r.1 = j <;> simp [get?, h, ih]
    rw [putAll, List.foldl_cons]
    rw [show rest.foldl (fun t p => put t p.1 p.2) (put t p.1 p.2) =
      putAll (put t p.1 p.2) rest from rfl, ih, List.reverse_cons, happ, get?_put]
    cases get? rest.reverse j <;> by_cases h : p.1 = j <;> simp [h]

theorem get?_ofPairs (pairs : List (κ × α)) (j : κ) :
    get? (ofPairs pairs) j = get? pairs.reverse j := by
  rw [ofPairs, get?_putAll]
  simp [get?]

/-! ## The keys -/

theorem keys_put (t : Table κ α) (k : κ) (v : α) :
    keys (put t k v) = if k ∈ keys t then keys t else keys t ++ [k] := by
  induction t with
  | nil => simp [put, keys]
  | cons p rest ih =>
    obtain ⟨k', v'⟩ := p
    simp only [keys] at ih
    by_cases h : k' = k
    · simp [put, keys, h]
    · have h' : ¬k = k' := fun e => h e.symm
      simp only [put, h, if_false, keys, List.map_cons, List.mem_cons, h', false_or, ih]
      by_cases hk : k ∈ List.map Prod.fst rest <;> simp [hk]

theorem mem_keys_iff (t : Table κ α) (k : κ) : k ∈ keys t ↔ (get? t k).isSome := by
  induction t with
  | nil => simp [keys, get?]
  | cons p rest ih =>
    obtain ⟨k', v'⟩ := p
    by_cases h : k' = k
    · simp [keys, get?, h]
    · have h' : ¬k = k' := fun e => h e.symm
      simpa [keys, get?, h, h'] using ih

theorem mem_keys_put (t : Table κ α) (k j : κ) (v : α) :
    j ∈ keys (put t k v) ↔ j ∈ keys t ∨ j = k := by
  rw [keys_put]
  split
  · next hk => exact ⟨Or.inl, fun h => h.elim id fun e => e ▸ hk⟩
  · rw [List.mem_append, List.mem_singleton]

theorem mem_keys_putAll (t : Table κ α) (pairs : List (κ × α)) (j : κ) :
    j ∈ keys (putAll t pairs) ↔ j ∈ keys t ∨ j ∈ keys pairs := by
  induction pairs generalizing t with
  | nil => simp [putAll, keys]
  | cons p rest ih =>
    rw [putAll, List.foldl_cons]
    rw [show rest.foldl (fun t p => put t p.1 p.2) (put t p.1 p.2) =
      putAll (put t p.1 p.2) rest from rfl, ih, mem_keys_put, or_assoc]
    rw [keys, keys, keys, List.map_cons, List.mem_cons]

theorem put_of_notMem {t : Table κ α} {k : κ} (h : k ∉ keys t) (v : α) :
    put t k v = t ++ [(k, v)] := by
  induction t with
  | nil => rfl
  | cons p rest ih =>
    rw [keys, List.map_cons, List.mem_cons, not_or] at h
    rw [put, if_neg (Ne.symm h.1), ih h.2, List.cons_append]

theorem nodup_keys_put (t : Table κ α) (k : κ) (v : α) (h : (keys t).Nodup) :
    (keys (put t k v)).Nodup := by
  rw [keys_put]
  split
  · exact h
  · next hk =>
    rw [List.nodup_append]
    exact ⟨h, by simp, fun a ha b hb => by simp at hb; exact fun e => hk (hb ▸ e ▸ ha)⟩

theorem nodup_keys_putAll (t : Table κ α) (pairs : List (κ × α)) (h : (keys t).Nodup) :
    (keys (putAll t pairs)).Nodup := by
  induction pairs generalizing t with
  | nil => exact h
  | cons p rest ih => exact ih _ (nodup_keys_put t p.1 p.2 h)

theorem nodup_keys_ofPairs (pairs : List (κ × α)) : (keys (ofPairs pairs)).Nodup :=
  nodup_keys_putAll [] pairs (by simp [keys])

/-! ## The pairs -/

theorem mem_of_mem_put {t : Table κ α} {k : κ} {v : α} {p : κ × α} (h : p ∈ put t k v) :
    p ∈ t ∨ p = (k, v) := by
  induction t with
  | nil => exact Or.inr (List.mem_singleton.mp h)
  | cons q rest ih =>
    rw [put] at h
    split at h
    · rcases List.mem_cons.mp h with h | h
      · exact Or.inr h
      · exact Or.inl (List.mem_cons_of_mem _ h)
    · rcases List.mem_cons.mp h with h | h
      · exact Or.inl (h ▸ List.mem_cons_self)
      · exact (ih h).imp_left (List.mem_cons_of_mem _)

theorem mem_of_mem_putAll {t : Table κ α} {pairs : List (κ × α)} {p : κ × α}
    (h : p ∈ putAll t pairs) : p ∈ t ∨ p ∈ pairs := by
  induction pairs generalizing t with
  | nil => exact Or.inl h
  | cons q rest ih =>
    rcases ih h with h | h
    · rcases mem_of_mem_put h with h | rfl
      · exact Or.inl h
      · exact Or.inr List.mem_cons_self
    · exact Or.inr (List.mem_cons_of_mem _ h)

theorem mem_of_get? {t : Table κ α} {k : κ} {v : α} (h : get? t k = some v) : (k, v) ∈ t := by
  induction t with
  | nil => cases h
  | cons p rest ih =>
    rw [get?] at h
    split at h
    · next hk =>
      rw [← hk, ← Option.some.inj h]
      exact List.mem_cons_self
    · exact List.mem_cons_of_mem _ (ih h)

theorem get?_eq_some_iff {t : Table κ α} (h : (keys t).Nodup) {k : κ} {v : α} :
    get? t k = some v ↔ (k, v) ∈ t := by
  refine ⟨mem_of_get?, fun hmem => ?_⟩
  induction t with
  | nil => cases hmem
  | cons p rest ih =>
    rw [keys, List.map_cons, List.nodup_cons] at h
    rcases List.mem_cons.mp hmem with rfl | hmem
    · exact if_pos rfl
    · have hk : p.1 ≠ k := fun hk => h.1 (hk ▸ List.mem_map.mpr ⟨_, hmem, rfl⟩)
      exact (if_neg hk).trans (ih h.2 hmem)

theorem get?_filter {t : Table κ α} (h : (keys t).Nodup) (p : κ × α → Bool) (k : κ) :
    get? (t.filter p) k = (get? t k).filter fun v => p (k, v) := by
  induction t with
  | nil => rfl
  | cons q rest ih =>
    rw [keys, List.map_cons, List.nodup_cons] at h
    by_cases hk : q.1 = k
    · have hnone : get? rest k = none := by
        rw [← Option.not_isSome_iff_eq_none, ← mem_keys_iff]
        exact hk ▸ h.1
      rw [get?, if_pos hk, Option.filter_some, List.filter_cons, ← hk]
      split
      · rw [get?, if_pos rfl]
      · rw [hk, ih h.2, hnone]
        rfl
    · rw [get?, if_neg hk, List.filter_cons]
      split
      · rw [get?, if_neg hk, ih h.2]
      · exact ih h.2

omit [DecidableEq κ] in
theorem nodup_keys_filter {t : Table κ α} (h : (keys t).Nodup) (p : κ × α → Bool) :
    (keys (t.filter p)).Nodup :=
  (List.filter_sublist.map Prod.fst).nodup h

theorem mem_values_iff {t : Table κ α} (h : (keys t).Nodup) {v : α} :
    v ∈ values t ↔ ∃ k, get? t k = some v := by
  simp [values, get?_eq_some_iff h]

/-- Of items under their names each name is left once. -/
theorem nodup_map_values (name : α → κ) (items : List α) :
    ((values (ofPairs (items.map fun i => (name i, i)))).map name).Nodup := by
  have hnamed : ∀ p ∈ ofPairs (items.map fun i => (name i, i)), name p.2 = p.1 := by
    intro p hp
    rcases mem_of_mem_putAll hp with hp | hp
    · cases hp
    · obtain ⟨i, _, rfl⟩ := List.mem_map.mp hp
      rfl
  have hkeys : (values (ofPairs (items.map fun i => (name i, i)))).map name =
      keys (ofPairs (items.map fun i => (name i, i))) := by
    rw [values, keys, List.map_map]
    exact List.map_congr_left hnamed
  rw [hkeys]
  exact nodup_keys_ofPairs _

end Table

end SchemaTypings
