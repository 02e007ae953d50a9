import SchemaTypings.Text.LetterCase

/-!
# The words of a name

A name is cut into words at every character that is no ASCII letter or digit, and at the changes of
letter case: before a capital after a small letter or digit, and before the last capital of a row of
capitals that a small letter follows.
-/

namespace SchemaTypings.Name

def isLower (c : Char) : Bool := 'a' ≤ c && c ≤ 'z'

def isUpper (c : Char) : Bool := 'A' ≤ c && c ≤ 'Z'

def isDigit (c : Char) : Bool := '0' ≤ c && c ≤ '9'

def isWordChar (c : Char) : Bool := isLower c || isUpper c || isDigit c

/-- A blank goes between a small letter or digit and the capital after it. -/
def spaceBeforeCapitals : List Char → List Char
  | a :: b :: rest =>
    if (isLower a || isDigit a) && isUpper b then a :: ' ' :: b :: spaceBeforeCapitals rest
    else a :: spaceBeforeCapitals (b :: rest)
  | cs => cs

/-- A blank goes between two capitals if a small letter follows the second. -/
def spaceBeforeLastCapital : List Char → List Char
  | a :: b :: c :: rest =>
    if isUpper a && isUpper b && isLower c then a :: ' ' :: b :: c :: spaceBeforeLastCapital rest
    else a :: spaceBeforeLastCapital (b :: c :: rest)
  | cs => cs

/-- The longest runs of characters with a property, in order. -/
def runs (p : Char → Bool) : List Char → List (List Char)
  | [] => []
  | c :: rest =>
    if p c then
      match rest, runs p rest with
      | d :: _, run :: others => if p d then (c :: run) :: others else [c] :: run :: others
      | _, others => [c] :: others
    else runs p rest

/-- The words of a name. -/
def words (name : List Char) : List (List Char) :=
  runs isWordChar (spaceBeforeLastCapital (spaceBeforeCapitals name))

/-! ## The same cuts, each seen from its two neighbours -/

/-- Whether a word ends between `a` and `b`, with `next` after `b`. -/
def cutsBefore (a b : Char) (next : Option Char) : Bool :=
  isUpper b && (isLower a || isDigit a || (isUpper a && next.any isLower))

/-- The words of a run of letters and digits, in one pass. -/
def cutRun : List Char → List (List Char)
  | [] => []
  | [a] => [[a]]
  | a :: b :: rest =>
    match cutRun (b :: rest) with
    | [] => [[a]]
    | word :: others =>
      if cutsBefore a b rest.head? then [a] :: word :: others else (a :: word) :: others

/-- The words of a name, cut run by run. -/
def wordsByRun (name : List Char) : List (List Char) := (runs isWordChar name).flatMap cutRun

def wordStrings (name : String) : List String := (words name.toList).map String.ofList

end SchemaTypings.Name
