import SchemaTypings.Text.CaseData

/-!
# Letter case

The small and capital forms of whole texts. A form may have several characters, and a capital sigma
becomes a final sigma at the end of a word.
-/

namespace SchemaTypings.Text

def shifted (runs : List CaseRun) (c : Char) : Char :=
  match runs.find? (·.covers c.toNat) with
  | some run => Char.ofNat (Int.toNat (c.toNat + run.shift))
  | none => c

def inRanges (ranges : List (Nat × Nat)) (c : Char) : Bool :=
  ranges.any fun r => r.1 ≤ c.toNat && c.toNat ≤ r.2

def isCaseIgnorable (c : Char) : Bool := inRanges caseIgnorableRanges c

def isCased (c : Char) : Bool := inRanges casedRanges c

def asciiLower (c : Char) : Char := if 'A' ≤ c ∧ c ≤ 'Z' then Char.ofNat (c.toNat + 32) else c

def asciiUpper (c : Char) : Char := if 'a' ≤ c ∧ c ≤ 'z' then Char.ofNat (c.toNat - 32) else c

/-- The capital form of one character. -/
def upperForm (c : Char) : List Char :=
  if c.toNat < 128 then [asciiUpper c]
  else
    match upperSpecials.lookup c.toNat with
    | some form => form.map Char.ofNat
    | none => [shifted upperRuns c]

/-- The small form of one character that is no capital sigma. -/
def lowerForm (c : Char) : List Char :=
  if c.toNat < 128 then [asciiLower c]
  else
    match lowerSpecials.lookup c.toNat with
    | some form => form.map Char.ofNat
    | none => [shifted lowerRuns c]

/-- A sigma is final after a cased character and before none, looking past ignorable ones. -/
def isFinalSigma (before after : List Char) : Bool :=
  (match before.dropWhile isCaseIgnorable with
    | [] => false
    | c :: _ => isCased c) &&
  (match after.dropWhile isCaseIgnorable with
    | [] => true
    | c :: _ => !isCased c)

/-- The small form of a text, given the characters that stand before it, nearest first. -/
def lowerAfter (before : List Char) : List Char → List Char
  | [] => []
  | c :: rest =>
    (if c = 'Σ' then [if isFinalSigma before rest then 'ς' else 'σ'] else lowerForm c) ++
      lowerAfter (c :: before) rest

def lower (cs : List Char) : List Char := lowerAfter [] cs

def upper (cs : List Char) : List Char := cs.flatMap upperForm

def lowerString (s : String) : String := String.ofList (lower s.toList)

def upperString (s : String) : String := String.ofList (upper s.toList)

end SchemaTypings.Text
