import SchemaTypings.Decimal.Binary64

/-!
# The shortest decimal of a binary number

The decimal written for a number is the one with the fewest digits among those that round back to it
and, of these, the nearest. Its layout is positional for moderate sizes and has an exponent otherwise.
-/

namespace SchemaTypings.Binary64

/-! ## Choosing the digits -/

/-- The numbers that round to `mid / den`: from `low / den` to `high / den`. -/
structure Span where
  low : Nat
  mid : Nat
  high : Nat
  den : Nat
  closed : Bool

/-- A significand at a power of two has a neighbour half as far below it as above it. -/
def spanOf (m : Nat) (q : Int) : Span :=
  let below := if m == twoTo (significandBits - 1) && leastExponent < q then 1 else 2
  let scale := if 2 ≤ q then twoTo (q - 2).toNat else 1
  let den := if 2 ≤ q then 1 else twoTo (2 - q).toNat
  { low := (4 * m - below) * scale, mid := 4 * m * scale, high := (4 * m + 2) * scale,
    den := den, closed := m % 2 == 0 }

/-- Whether `digits · num / den` lies in the span; `num / den` is the step of a decimal grid. -/
def Span.holds (s : Span) (digits num den : Nat) : Bool :=
  let x := digits * num * s.den
  if s.closed then s.low * den ≤ x && x ≤ s.high * den else s.low * den < x && x < s.high * den

/-- The step `10 ^ k` of a decimal grid as a fraction. -/
def gridStep (k : Int) : Nat × Nat :=
  if 0 ≤ k then (tenTo k.toNat, 1) else (1, tenTo (-k).toNat)

/-- The grid point of step `10 ^ k` that lies in the span, the nearer of two, the even at a tie. -/
def Span.gridPoint? (s : Span) (k : Int) : Option Nat :=
  let (num, den) := gridStep k
  let floor := s.mid * den / (s.den * num)
  let rest := 2 * (s.mid * den % (s.den * num))
  match s.holds floor num den, s.holds (floor + 1) num den with
  | true, true =>
    if rest < s.den * num then some floor
    else if s.den * num < rest then some (floor + 1)
    else some (if floor % 2 == 0 then floor else floor + 1)
  | true, false => some floor
  | false, true => some (floor + 1)
  | false, false => none

/-- The least `k` with `num / den < 10 ^ k`, found near an estimate. -/
def decimalPlaces (num den : Nat) : Int :=
  let estimate : Int := ((num.log2 : Int) - den.log2 - 1) * 30103 / 100000
  let under (k : Int) : Bool := num * (gridStep k).2 < den * (gridStep k).1
  if under estimate then estimate
  else if under (estimate + 1) then estimate + 1
  else if under (estimate + 2) then estimate + 2
  else estimate + 3

/-- Tries grids from `10 ^ k` downwards, at most `fuel` of them. -/
def Span.coarsest? (s : Span) : Nat → Int → Option (Nat × Int)
  | 0, _ => none
  | fuel + 1, k =>
    match s.gridPoint? k with
    | some digits => some (digits, k)
    | none => s.coarsest? fuel (k - 1)

/-- Digits and power of ten of the shortest decimal; seventeen digits always suffice. -/
def shortest (m : Nat) (q : Int) : Nat × Int :=
  let s := spanOf m q
  (s.coarsest? 18 (decimalPlaces s.mid s.den - 1)).getD (0, 0)

/-! ## Laying the digits out -/

/-- How a decimal is laid out: where the positional form begins and ends, and its fixed texts. -/
structure Layout where
  leastPoint : Int
  greatestPoint : Int
  exponentMark : String
  exponentWidth : Nat
  nan : String
  infinity : String

/-- A number is positional if its point stands from three places before its digits to sixteen past
the first; an exponent has a sign and two digits at least. -/
def layout : Layout :=
  { leastPoint := -3, greatestPoint := 16, exponentMark := "e", exponentWidth := 2,
    nan := "nan", infinity := "inf" }

def zeros (n : Nat) : String := String.ofList (List.replicate n '0')

def dropTrailingZeros (digits : List Char) : List Char :=
  (digits.reverse.dropWhile (· == '0')).reverse

/-- The digits `d₁d₂…` with the point after the first `point` of them. -/
def Layout.positional (digits : List Char) (point : Int) : String :=
  if point ≤ 0 then "0." ++ zeros (-point).toNat ++ String.ofList digits
  else
    let whole := digits.take point.toNat
    let fraction := digits.drop point.toNat
    String.ofList whole ++ zeros (point.toNat - whole.length) ++ "." ++
      (if fraction.isEmpty then "0" else String.ofList fraction)

def Layout.scientific (l : Layout) (digits : List Char) (point : Int) : String :=
  let power := point - 1
  let size := Nat.toDigits 10 power.natAbs
  String.ofList (digits.take 1) ++
    (if digits.length ≤ 1 then "" else "." ++ String.ofList (digits.drop 1)) ++
    l.exponentMark ++ (if power < 0 then "-" else "+") ++
    zeros (l.exponentWidth - size.length) ++ String.ofList size

def Layout.write (l : Layout) : Binary64 → String
  | .nan => l.nan
  | .infinite negative => (if negative then "-" else "") ++ l.infinity
  | .finite negative m q =>
    (if negative then "-" else "") ++
      (if m == 0 then "0.0"
      else
        let (n, power) := shortest m q
        let all := Nat.toDigits 10 n
        let point := all.length + power
        let digits := dropTrailingZeros all
        if l.leastPoint ≤ point && point ≤ l.greatestPoint then Layout.positional digits point
        else l.scientific digits point)

/-- The text of a number. -/
def text (x : Binary64) : String := layout.write x

end SchemaTypings.Binary64
