import SchemaTypings.Value.Text

/-!
# The text of a number

Numbers are written with letters, digits, signs and a point, and with nothing else.
-/

namespace SchemaTypings

def isNumeral (c : Char) : Bool := c.isAlphanum || c == '-' || c == '+' || c == '.'

/-- A text of characters of numbers. -/
def Numeral (s : String) : Prop := ∀ c ∈ s.toList, isNumeral c = true

instance : DecidablePred Numeral := fun s => List.decidableBAll (isNumeral · = true) s.toList

@[simp] theorem numeral_append {a b : String} : Numeral (a ++ b) ↔ Numeral a ∧ Numeral b := by
  simp [Numeral, or_imp, forall_and]

@[simp] theorem numeral_ofList {cs : List Char} :
    Numeral (String.ofList cs) ↔ ∀ c ∈ cs, isNumeral c = true := by
  simp [Numeral]

theorem numeral_ite {p : Prop} [Decidable p] {a b : String} (ha : Numeral a) (hb : Numeral b) :
    Numeral (if p then a else b) := by
  split
  · exact ha
  · exact hb

theorem Numeral.notMem {s : String} (h : Numeral s) {c : Char} (hc : isNumeral c = false) :
    c ∉ s.toList := fun hmem => by simp [h c hmem] at hc

theorem isNumeral_of_mem_toDigits {base : Nat} (hbase : 1 < base) (hlarge : base ≤ 16) (n : Nat) :
    ∀ c ∈ Nat.toDigits base n, isNumeral c = true := by
  have hdigit : ∀ d < 16, isNumeral (Nat.digitChar d) = true := by decide
  induction n using Nat.strongRecOn with
  | ind n ih =>
    rw [Nat.toDigits_eq_if hbase]
    split
    · simpa using hdigit n (by omega)
    · next hn =>
      have hrest := ih (n / base) (Nat.div_lt_self (by omega) hbase)
      have hlast := hdigit (n % base) (Nat.lt_of_lt_of_le (Nat.mod_lt n (by omega)) hlarge)
      simp only [List.mem_append, List.mem_singleton]
      rintro c (hc | rfl)
      · exact hrest c hc
      · exact hlast

theorem numeral_repr (n : Nat) : Numeral n.repr := by
  unfold Numeral
  rw [Nat.toList_repr]
  exact isNumeral_of_mem_toDigits (by omega) (by omega) n

theorem numeral_int (n : Int) : Numeral (toString n) := by
  cases n with
  | ofNat n => exact numeral_repr n
  | negSucc n =>
    have hminus : Numeral "-" := by decide
    exact numeral_append.mpr ⟨hminus, numeral_repr (n + 1)⟩

namespace Binary64

theorem numeral_zeros (n : Nat) : Numeral (zeros n) := by
  unfold zeros
  rw [numeral_ofList]
  intro c hc
  rw [List.eq_of_mem_replicate hc]
  decide

section

variable {digits : List Char} (h : ∀ c ∈ digits, isNumeral c = true)

include h

theorem isNumeral_dropTrailingZeros : ∀ c ∈ dropTrailingZeros digits, isNumeral c = true := by
  intro c hc
  unfold dropTrailingZeros at hc
  rw [List.mem_reverse] at hc
  exact h c (List.mem_reverse.mp ((List.dropWhile_suffix _).subset hc))

theorem numeral_take (n : Nat) : Numeral (String.ofList (digits.take n)) :=
  numeral_ofList.mpr fun c hc => h c (List.mem_of_mem_take hc)

theorem numeral_drop (n : Nat) : Numeral (String.ofList (digits.drop n)) :=
  numeral_ofList.mpr fun c hc => h c (List.mem_of_mem_drop hc)

theorem numeral_positional (point : Int) : Numeral (Layout.positional digits point) := by
  have hfixed : Numeral "0." ∧ Numeral "." ∧ Numeral "0" := by decide
  unfold Layout.positional
  split
  · simp only [numeral_append, numeral_ofList]
    exact ⟨⟨hfixed.1, numeral_zeros _⟩, h⟩
  · simp only [numeral_append]
    exact ⟨⟨⟨numeral_take h _, numeral_zeros _⟩, hfixed.2.1⟩,
      numeral_ite hfixed.2.2 (numeral_drop h _)⟩

theorem numeral_scientific (point : Int) : Numeral (layout.scientific digits point) := by
  have hfixed : Numeral "" ∧ Numeral "." ∧ Numeral layout.exponentMark ∧ Numeral "-" ∧
      Numeral "+" := by decide
  obtain ⟨hempty, hpoint, hmark, hminus, hplus⟩ := hfixed
  unfold Layout.scientific
  simp only [numeral_append]
  refine ⟨⟨⟨⟨⟨numeral_take h 1, ?_⟩, hmark⟩, numeral_ite hminus hplus⟩, numeral_zeros _⟩, ?_⟩
  · exact numeral_ite hempty (numeral_append.mpr ⟨hpoint, numeral_drop h 1⟩)
  · exact numeral_ofList.mpr (isNumeral_of_mem_toDigits (by omega) (by omega) _)

end

theorem numeral_text (x : Binary64) : Numeral x.text := by
  have hfixed : Numeral layout.nan ∧ Numeral layout.infinity ∧ Numeral "0.0" ∧ Numeral "-" ∧
      Numeral "" := by decide
  obtain ⟨hnan, hinfinity, hzero, hminus, hempty⟩ := hfixed
  have hsign : ∀ negative : Bool, Numeral (if negative then "-" else "") :=
    fun _ => numeral_ite hminus hempty
  unfold text Layout.write
  cases x with
  | nan => exact hnan
  | infinite negative => exact numeral_append.mpr ⟨hsign negative, hinfinity⟩
  | finite negative m q =>
    refine numeral_append.mpr ⟨hsign negative, numeral_ite hzero ?_⟩
    have hall : ∀ c ∈ Nat.toDigits 10 (shortest m q).1, isNumeral c = true :=
      isNumeral_of_mem_toDigits (by omega) (by omega) _
    have hdigits := isNumeral_dropTrailingZeros hall
    exact numeral_ite (numeral_positional hdigits _) (numeral_scientific hdigits _)

end Binary64

end SchemaTypings
