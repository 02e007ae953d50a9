/-!
# Binary numbers of 64 bits

A finite number is a sign, a significand below `2 ^ 53` and a power of two. Here are the rounding of
a decimal to the nearest such number and its exact value.
-/

namespace SchemaTypings

/-- `finite negative m q` stands for `m · 2 ^ q`, negated if `negative` holds. -/
inductive Binary64 where
  | nan
  | infinite (negative : Bool)
  | finite (negative : Bool) (significand : Nat) (exponent : Int)
  deriving DecidableEq, Repr

namespace Binary64

/-- Two to a power. -/
def twoTo (n : Nat) : Nat := Nat.pow 2 n

/-- Ten to a power. -/
def tenTo (n : Nat) : Nat := Nat.pow 10 n

def significandBits : Nat := 53

def leastExponent : Int := -1074

def greatestExponent : Int := 971

def isZero : Binary64 → Bool
  | finite _ 0 _ => true
  | _ => false

/-- The exact value of a finite number. -/
def toRat? : Binary64 → Option Rat
  | finite negative m q =>
    let size := (m : Rat) * (2 : Rat) ^ q
    some (if negative then -size else size)
  | _ => none

/-! ## Rounding to nearest, ties to the even significand -/

/-- `num / den` in units of `2 ^ q`, as a fraction. -/
def inUnits (num den : Nat) (q : Int) : Nat × Nat :=
  if 0 ≤ q then (num, den * twoTo q.toNat) else (num * twoTo (-q).toNat, den)

def roundHalfEven (num den : Nat) : Nat :=
  let whole := num / den
  let twice := 2 * (num % den)
  if twice < den then whole
  else if den < twice then whole + 1
  else if whole % 2 == 0 then whole else whole + 1

/-- The exponent at which the significand of `num / den` has its 53 bits. -/
def exponentOf (num den : Nat) : Int :=
  let guess : Int := (num.log2 : Int) - den.log2 - (significandBits - 1 : Nat)
  let (n, d) := inUnits num den guess
  let q := if n < d * twoTo (significandBits - 1) then guess - 1 else guess
  max q leastExponent

/-- The number nearest to `num / den`, infinite from half a unit past the greatest on. -/
def ofFraction (negative : Bool) (num den : Nat) : Binary64 :=
  if num == 0 then finite negative 0 leastExponent
  else
    let q := exponentOf num den
    let (n, d) := inUnits num den q
    let m := roundHalfEven n d
    let (m, q) := if m == twoTo significandBits then (m / 2, q + 1) else (m, q)
    if greatestExponent < q then infinite negative else finite negative m q

/-- The number nearest to `digits · 10 ^ power`; powers far out of range need no arithmetic. -/
def ofDecimal (negative : Bool) (digits : Nat) (power : Int) : Binary64 :=
  let places : Int := (Nat.toDigits 10 digits).length
  if digits == 0 || places + power < -400 then finite negative 0 leastExponent
  else if 400 < places + power then infinite negative
  else if 0 ≤ power then ofFraction negative (digits * tenTo power.toNat) 1
  else ofFraction negative digits (tenTo (-power).toNat)

example : ofDecimal false 1 0 = finite false (twoTo 52) (-52) := by decide +kernel
example : ofDecimal true 0 7 = finite true 0 leastExponent := by decide +kernel
example : ofDecimal false 17976931348623157 292 = finite false (twoTo 53 - 1) 971 := by decide +kernel
example : ofDecimal false 18 307 = infinite false := by decide +kernel
example : ofDecimal false 49 (-325) = finite false 1 (-1074) := by decide +kernel

end Binary64

end SchemaTypings
