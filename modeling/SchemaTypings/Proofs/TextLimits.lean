import SchemaTypings.Value.Limit

/-!
# Values within their limits

A value runs out of levels only if it is nested more deeply than there is room for. More room never
brings up a number that is too long, so a value that has a text in little room has one in any room
that is deep enough.
-/

namespace SchemaTypings.Value

/-- More lists and objects stand inside each other than there are levels. -/
def DeeperThan (levels : Option Nat) (v : Value) : Prop := ∃ n, levels = some n ∧ n < v.depth

theorem not_deeperThan_ample (v : Value) : ¬ v.DeeperThan none := nofun

/-! ## Running out of levels -/

mutual

theorem deeperThan_of_limit? {levels : Option Nat} (v : Value)
    (h : v.limit? levels = some .levels) : v.DeeperThan levels := by
  cases v with
  | int n =>
    unfold limit? at h
    split at h <;> cases h
  | list items =>
    obtain ⟨n, hn, hitems⟩ := le_itemsDepth items h
    exact ⟨n, hn, Nat.lt_succ_of_le hitems⟩
  | object fields =>
    obtain ⟨n, hn, hfields⟩ := le_fieldsDepth fields h
    exact ⟨n, hn, Nat.lt_succ_of_le hfields⟩
  | null | bool b | float x | text s => cases h

theorem le_itemsDepth {levels : Option Nat} (items : List Value)
    (h : itemsLimit? levels items = some .levels) : ∃ n, levels = some n ∧ n ≤ itemsDepth items := by
  cases items with
  | nil => cases h
  | cons v rest =>
    unfold itemsLimit? at h
    split at h
    · next hzero => exact ⟨0, hzero, Nat.zero_le _⟩
    · rcases Option.or_eq_some_iff.mp h with hv | ⟨_, hrest⟩
      · -- The item has one level less than the list that it stands in.
        obtain ⟨_, hn, hdeep⟩ := deeperThan_of_limit? v hv
        obtain ⟨n, rfl, rfl⟩ := Option.map_eq_some_iff.mp hn
        exact ⟨n, rfl, Nat.le_trans (Nat.le_of_pred_lt hdeep) (Nat.le_max_left ..)⟩
      · obtain ⟨n, hn, hle⟩ := le_itemsDepth rest hrest
        exact ⟨n, hn, Nat.le_trans hle (Nat.le_max_right ..)⟩

theorem le_fieldsDepth {levels : Option Nat} (fields : List (String × Value))
    (h : fieldsLimit? levels fields = some .levels) :
    ∃ n, levels = some n ∧ n ≤ fieldsDepth fields := by
  cases fields with
  | nil => cases h
  | cons p rest =>
    obtain ⟨key, v⟩ := p
    unfold fieldsLimit? at h
    split at h
    · next hzero => exact ⟨0, hzero, Nat.zero_le _⟩
    · rcases Option.or_eq_some_iff.mp h with hv | ⟨_, hrest⟩
      · obtain ⟨_, hn, hdeep⟩ := deeperThan_of_limit? v hv
        obtain ⟨n, rfl, rfl⟩ := Option.map_eq_some_iff.mp hn
        exact ⟨n, rfl, Nat.le_trans (Nat.le_of_pred_lt hdeep) (Nat.le_max_left ..)⟩
      · obtain ⟨n, hn, hle⟩ := le_fieldsDepth rest hrest
        exact ⟨n, hn, Nat.le_trans hle (Nat.le_max_right ..)⟩

end

/-! ## Room for every level -/

mutual

theorem limit?_ample {levels : Option Nat} (v : Value) (h : v.limit? levels = none) :
    v.limit? none = none := by
  cases v with
  | list items => exact itemsLimit?_ample items h
  | object fields => exact fieldsLimit?_ample fields h
  | int n => exact h
  | null | bool b | float x | text s => rfl

theorem itemsLimit?_ample {levels : Option Nat} (items : List Value)
    (h : itemsLimit? levels items = none) : itemsLimit? none items = none := by
  cases items with
  | nil => rfl
  | cons v rest =>
    unfold itemsLimit? at h
    split at h
    · cases h
    · obtain ⟨hv, hrest⟩ := Option.or_eq_none_iff.mp h
      exact Option.or_eq_none_iff.mpr ⟨limit?_ample v hv, itemsLimit?_ample rest hrest⟩

theorem fieldsLimit?_ample {levels : Option Nat} (fields : List (String × Value))
    (h : fieldsLimit? levels fields = none) : fieldsLimit? none fields = none := by
  cases fields with
  | nil => rfl
  | cons p rest =>
    obtain ⟨key, v⟩ := p
    unfold fieldsLimit? at h
    split at h
    · cases h
    · obtain ⟨hv, hrest⟩ := Option.or_eq_none_iff.mp h
      exact Option.or_eq_none_iff.mpr ⟨limit?_ample v hv, fieldsLimit?_ample rest hrest⟩

end

theorem checkText_eq_ok {v : Value} {levels : Option Nat} :
    v.checkText levels = .ok () ↔ v.limit? levels = none := by
  unfold checkText
  cases v.limit? levels <;> simp

theorem checkText_ample {levels : Option Nat} (v : Value) (h : v.checkText levels = .ok ()) :
    v.checkText none = .ok () :=
  checkText_eq_ok.mpr (v.limit?_ample (checkText_eq_ok.mp h))

/-! ## Lists inside each other -/

/-- An empty list inside so many others. -/
def nest : Nat → Value
  | 0 => .list []
  | n + 1 => .list [nest n]

theorem limit?_nest (n levels : Nat) :
    (nest n).limit? (some levels) = if levels < n then some .levels else none := by
  induction n generalizing levels with
  | zero => rfl
  | succ n ih =>
    rw [nest, limit?, itemsLimit?]
    cases levels with
    | zero => rw [if_pos rfl, if_pos (Nat.succ_pos n)]
    | succ levels =>
      have hne : some (levels + 1) ≠ some 0 := by simp
      rw [if_neg hne, itemsLimit?, Option.or_none, Option.map_some, Nat.add_sub_cancel, ih]
      simp only [Nat.add_lt_add_iff_right]

end SchemaTypings.Value
