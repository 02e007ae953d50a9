import SchemaTypings.Proofs.Spelling
import SchemaTypings.Text.LetterCase

/-!
# Small forms are small

No run of capital letters is moved onto one, so the small form of a text is its own small form.
-/

namespace SchemaTypings.Text

/-! ## Runs of capital letters -/

namespace CaseRun

/-- Where a code point of a run is moved. -/
def move (r : CaseRun) (n : Nat) : Nat := Int.toNat (n + r.shift)

/-- Nothing that `r` moves comes to stand in `s`. Runs that are moved among each other leave out
every second code point. -/
def misses (r s : CaseRun) : Bool :=
  (r.move r.last).blt s.first || s.last.blt (r.move r.first) ||
    (s.step == 2 && (r.step == 2 || r.first == r.last) && (r.move r.first + s.first) % 2 == 1)

/-- A run is moved to characters, and not to the one whose small form is longer. -/
def Lands (r : CaseRun) : Prop :=
  0 ≤ r.first + r.shift ∧ (r.move r.last < 0xD800 ∨ 0xDFFF < r.move r.first) ∧
    r.move r.last < 0x110000 ∧ (r.move r.last < 304 ∨ 304 < r.move r.first)

instance (r : CaseRun) : Decidable r.Lands := inferInstanceAs (Decidable (_ ∧ _))

theorem covers_iff {r : CaseRun} {n : Nat} :
    r.covers n = true ↔ r.first ≤ n ∧ n ≤ r.last ∧ (n - r.first) % r.step = 0 := by
  simp [covers, and_assoc]

theorem move_between {r : CaseRun} (hlands : r.Lands) {n : Nat} (h : r.covers n = true) :
    (r.move n : Int) = n + r.shift ∧ r.move r.first ≤ r.move n ∧ r.move n ≤ r.move r.last := by
  obtain ⟨hfirst, hlast, _⟩ := covers_iff.mp h
  have hstart := hlands.1
  unfold move
  omega

theorem not_covers_move {r s : CaseRun} (hlands : r.Lands) (hmiss : r.misses s = true) {n : Nat}
    (h : r.covers n = true) : s.covers (r.move n) = false := by
  obtain ⟨hmove, hlow, hhigh⟩ := move_between hlands h
  obtain ⟨hfirst, hlast, hstep⟩ := covers_iff.mp h
  simp only [misses, Bool.or_eq_true, Bool.and_eq_true, Nat.blt_eq, beq_iff_eq] at hmiss
  rw [← Bool.not_eq_true, covers_iff]
  rintro ⟨hfrom, hto, heven⟩
  rcases hmiss with (hmiss | hmiss) | ⟨⟨htwo, hside⟩, hodd⟩
  · omega
  · omega
  · have hbase : (r.move r.first : Int) = r.first + r.shift := Int.toNat_of_nonneg hlands.1
    rw [htwo] at heven
    rcases hside with hside | hside
    · rw [hside] at hstep
      omega
    · omega

end CaseRun

theorem lowerRuns_miss : (lowerRuns.all fun r => lowerRuns.all fun s => r.misses s) = true := by
  decide +kernel

theorem lowerRuns_land : ∀ r ∈ lowerRuns, r.Lands := by decide +kernel

theorem find?_move {r : CaseRun} (hr : r ∈ lowerRuns) {n : Nat} (h : r.covers n = true) :
    lowerRuns.find? (·.covers (r.move n)) = none := by
  rw [List.find?_eq_none]
  intro s hs
  have hmiss := lowerRuns_miss
  simp only [List.all_eq_true] at hmiss
  rw [CaseRun.not_covers_move (lowerRuns_land r hr) (hmiss r hr s hs) h]
  exact Bool.false_ne_true

/-! ## Characters -/

/-- A character that stands for itself in a small form. -/
def IsSmall (c : Char) : Prop := c ≠ 'Σ' ∧ lowerForm c = [c]

instance (c : Char) : Decidable (IsSmall c) := inferInstanceAs (Decidable (_ ∧ _))

theorem lookup_lowerSpecials {n : Nat} (h : n ≠ 304) : lowerSpecials.lookup n = none := by
  simp [lowerSpecials, List.lookup_eq_none_iff, h]

theorem isSmall_of_find? {c : Char} (hfind : lowerRuns.find? (·.covers c.toNat) = none)
    (hspecial : c.toNat ≠ 304) : IsSmall c := by
  refine ⟨?_, ?_⟩
  · rintro rfl
    exact absurd hfind (by decide +kernel)
  unfold lowerForm
  split
  · have hcapital : ¬('A' ≤ c ∧ c ≤ 'Z') := by
      intro hc
      rw [Char.le_def, Char.le_def, UInt32.le_iff_toNat_le, UInt32.le_iff_toNat_le] at hc
      -- The capital ASCII letters are the first of the runs.
      have hrun : (⟨65, 90, 1, 32⟩ : CaseRun) ∈ lowerRuns := by
        unfold lowerRuns
        exact List.mem_cons_self
      exact List.find?_eq_none.mp hfind _ hrun (CaseRun.covers_iff.mpr ⟨hc.1, hc.2, Nat.mod_one _⟩)
    rw [asciiLower, if_neg hcapital]
  · rw [lookup_lowerSpecials hspecial]
    simp only [shifted, hfind]

theorem isSmall_moved {r : CaseRun} (hr : r ∈ lowerRuns) {n : Nat} (h : r.covers n = true) :
    IsSmall (Char.ofNat (r.move n)) := by
  obtain ⟨_, hlow, hhigh⟩ := CaseRun.move_between (lowerRuns_land r hr) h
  obtain ⟨_, hplane, hlast, hspecial⟩ := lowerRuns_land r hr
  have hvalid : (r.move n).isValidChar := by
    unfold Nat.isValidChar
    omega
  have hto : (Char.ofNat (r.move n)).toNat = r.move n := by
    rw [Char.ofNat, dif_pos hvalid]
    rfl
  refine isSmall_of_find? ?_ ?_
  · rw [hto]
    exact find?_move hr h
  · rw [hto]
    omega

theorem isSmall_lowerForm {c : Char} : ∀ d ∈ lowerForm c, IsSmall d := by
  unfold lowerForm
  split
  · next hascii =>
    have hsmall : IsSmall (asciiLower c) :=
      ascii_cases (P := fun c => IsSmall (asciiLower c)) (by decide +kernel) hascii
    intro d hd
    rwa [List.mem_singleton.mp hd]
  · by_cases hspecial : c.toNat = 304
    · have hfirst : IsSmall (Char.ofNat 105) := by decide +kernel
      have hsecond : IsSmall (Char.ofNat 775) := by decide +kernel
      rw [hspecial]
      exact List.forall_mem_cons.mpr ⟨hfirst, List.forall_mem_singleton.mpr hsecond⟩
    · rw [lookup_lowerSpecials hspecial]
      intro d hd
      rw [List.mem_singleton.mp hd]
      unfold shifted
      cases hfind : lowerRuns.find? (·.covers c.toNat) with
      | none => exact isSmall_of_find? hfind hspecial
      | some r =>
        have hcovers : r.covers c.toNat = true := by simpa using List.find?_some hfind
        exact isSmall_moved (List.mem_of_find?_eq_some hfind) hcovers

/-! ## Texts -/

theorem lowerAfter_of_isSmall {before cs : List Char} (h : ∀ c ∈ cs, IsSmall c) :
    lowerAfter before cs = cs := by
  induction cs generalizing before with
  | nil => rfl
  | cons c rest ih =>
    rw [List.forall_mem_cons] at h
    rw [lowerAfter, if_neg h.1.1, h.1.2, ih h.2]
    rfl

theorem isSmall_lowerAfter (before cs : List Char) : ∀ c ∈ lowerAfter before cs, IsSmall c := by
  induction cs generalizing before with
  | nil => simp [lowerAfter]
  | cons c rest ih =>
    rw [lowerAfter]
    intro d hd
    rcases List.mem_append.mp hd with hd | hd
    · split at hd
      · have hforms : IsSmall 'ς' ∧ IsSmall 'σ' := by decide +kernel
        rw [List.mem_singleton.mp hd]
        split
        · exact hforms.1
        · exact hforms.2
      · exact isSmall_lowerForm d hd
    · exact ih _ d hd

/-- **The small form of a text is its own small form.** -/
theorem lowerString_lowerString (s : String) : lowerString (lowerString s) = lowerString s := by
  unfold lowerString lower
  rw [String.toList_ofList, lowerAfter_of_isSmall (isSmall_lowerAfter _ _)]

end SchemaTypings.Text
