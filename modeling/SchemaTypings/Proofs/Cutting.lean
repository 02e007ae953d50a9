import SchemaTypings.Text.Blank

/-!
# Texts that are cut

Where a separator stands only once, or a text has no blanks at its ends, what comes of cutting and
trimming is known. Nothing comes of it that was not in the text.
-/

namespace SchemaTypings.Text

/-! ## The last separator -/

theorem cutLast_of_notMem {sep : Char} {cs : List Char} (h : sep ∉ cs) : cutLast sep cs = none := by
  induction cs with
  | nil => rfl
  | cons c cs ih =>
    rw [List.mem_cons, not_or] at h
    rw [cutLast, ih h.2]
    exact if_neg (Ne.symm h.1)

theorem cutLast_append {sep : Char} {tail : List Char} (h : sep ∉ tail) (front : List Char) :
    cutLast sep (front ++ sep :: tail) = some (front, tail) := by
  induction front with
  | nil =>
    rw [List.nil_append, cutLast, cutLast_of_notMem h]
    exact if_pos rfl
  | cons c front ih => rw [List.cons_append, cutLast, ih]

theorem exists_cutLast {sep : Char} {cs : List Char} (h : sep ∈ cs) :
    ∃ pieces, cutLast sep cs = some pieces := by
  induction cs with
  | nil => cases h
  | cons c rest ih =>
    unfold cutLast
    cases hcut : cutLast sep rest with
    | some pieces => exact ⟨_, rfl⟩
    | none =>
      rcases List.mem_cons.mp h with rfl | h
      · exact ⟨_, if_pos rfl⟩
      · obtain ⟨pieces, hpieces⟩ := ih h
        rw [hcut] at hpieces
        cases hpieces

/-! ## The first mark -/

section

variable {c : Char} {more before : List Char}

theorem cutFirst_of_notMem (h : c ∉ before) : cutFirst (c :: more) before = none := by
  induction before with
  | nil => rfl
  | cons d before ih =>
    rw [List.mem_cons, not_or] at h
    have hmark : (c :: more).isPrefixOf (d :: before) = false := by
      rw [List.isPrefixOf, beq_eq_false_iff_ne.mpr h.1, Bool.false_and]
    rw [cutFirst, hmark, if_neg Bool.false_ne_true, ih h.2]
    rfl

theorem cutFirst_append (h : c ∉ before) (after : List Char) :
    cutFirst (c :: more) (before ++ (c :: more ++ after)) = some (before, after) := by
  induction before with
  | nil =>
    have hmark : (c :: more).isPrefixOf (c :: (more ++ after)) = true := by
      rw [← List.cons_append, List.isPrefixOf_iff_prefix]
      exact List.prefix_append _ _
    rw [List.nil_append, List.cons_append, cutFirst, if_pos hmark, ← List.cons_append,
      List.drop_left]
  | cons d before ih =>
    rw [List.mem_cons, not_or] at h
    have hmark : (c :: more).isPrefixOf (d :: (before ++ (c :: more ++ after))) = false := by
      rw [List.isPrefixOf, beq_eq_false_iff_ne.mpr h.1, Bool.false_and]
    rw [List.cons_append, cutFirst, hmark, if_neg Bool.false_ne_true, ih h.2]
    rfl

end

/-! ## Blank ends -/

theorem trimEnd_of_getLast {cs : List Char} (h : ∀ c ∈ cs.getLast?, isBlank c = false) :
    trimEnd cs = cs := by
  induction cs with
  | nil => rfl
  | cons c rest ih =>
    cases rest with
    | nil => simpa [trimEnd] using h c
    | cons d rest =>
      rw [List.getLast?_cons_cons] at h
      rw [trimEnd, ih h]

theorem trim_of_ends {cs : List Char} (hhead : ∀ c ∈ cs.head?, isBlank c = false)
    (hlast : ∀ c ∈ cs.getLast?, isBlank c = false) : trim cs = cs := by
  have hstart : trimStart cs = cs := by
    cases cs with
    | nil => rfl
    | cons c rest => exact List.dropWhile_cons_of_neg (by simpa using hhead c)
  rw [trim, hstart, trimEnd_of_getLast hlast]

theorem trim_of_noBlanks {cs : List Char} (h : ∀ c ∈ cs, isBlank c = false) : trim cs = cs :=
  trim_of_ends (fun c hc => h c (List.mem_of_mem_head? hc))
    fun c hc => h c (List.mem_of_mem_getLast? hc)

/-! ## Characters of what is left -/

theorem mem_trimEnd {cs : List Char} {c : Char} (h : c ∈ trimEnd cs) : c ∈ cs := by
  induction cs with
  | nil => exact h
  | cons d rest ih =>
    unfold trimEnd at h
    split at h
    · split at h
      · cases h
      · exact List.mem_singleton.mp h ▸ List.mem_cons_self
    · rcases List.mem_cons.mp h with rfl | h
      · exact List.mem_cons_self
      · exact List.mem_cons_of_mem _ (ih h)

theorem mem_trim {cs : List Char} {c : Char} (h : c ∈ trim cs) : c ∈ cs :=
  (List.dropWhile_suffix _).subset (mem_trimEnd h)

theorem mem_cutFirst {mark cs before after : List Char}
    (h : cutFirst mark cs = some (before, after)) : before ⊆ cs ∧ after ⊆ cs := by
  induction cs generalizing before after with
  | nil =>
    unfold cutFirst at h
    split at h
    · cases h
      simp
    · cases h
  | cons c rest ih =>
    unfold cutFirst at h
    split at h
    · cases h
      exact ⟨List.nil_subset _, List.drop_subset ..⟩
    · obtain ⟨⟨before', after'⟩, hrest, h⟩ := Option.map_eq_some_iff.mp h
      cases h
      obtain ⟨hbefore, hafter⟩ := ih hrest
      exact ⟨List.cons_subset_cons c hbefore, List.Subset.trans hafter (List.subset_cons_self c rest)⟩

theorem mem_cutLast {sep : Char} {cs before after : List Char}
    (h : cutLast sep cs = some (before, after)) : before ⊆ cs ∧ after ⊆ cs := by
  induction cs generalizing before after with
  | nil => cases h
  | cons c rest ih =>
    unfold cutLast at h
    split at h
    · next hrest =>
      cases h
      obtain ⟨hbefore, hafter⟩ := ih hrest
      exact ⟨List.cons_subset_cons c hbefore, List.Subset.trans hafter (List.subset_cons_self c rest)⟩
    · split at h
      · cases h
        exact ⟨List.nil_subset _, List.subset_cons_self c rest⟩
      · cases h

end SchemaTypings.Text
