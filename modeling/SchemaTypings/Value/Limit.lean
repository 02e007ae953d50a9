import SchemaTypings.Value.Basic

/-!
# Limits of values

A number can be too long to be written, and values can stand too deep inside each other for the stack
of the interpreter. How many levels there is room for depends on where a value is read or written, and
on how deep the run is there already.
-/

namespace SchemaTypings

/-- The levels of values that there is room for. A text without a bound takes all of them. -/
structure Room where
  /-- Lists and objects inside each other in a text that is read. -/
  read : Nat := 987
  /-- Values inside each other that are written as JSON. -/
  written : Nat := 989
  /-- The text of a value that names a style. -/
  style : Option Nat := none
  /-- The words about such a value that is not known. -/
  unknownStyle : Option Nat := none
  /-- The words about a kind of declarations that is not known. -/
  unknownKind : Option Nat := none
  /-- The literal of a value of an enum. -/
  literal : Option Nat := none
  /-- The text of an option that stands in the written code. -/
  option : Option Nat := none

namespace Room

/-- Room for every text. -/
def ample : Room := {}

/-- What is left where a run is started from the command line. -/
def standard : Room :=
  { style := some 980, unknownStyle := some 979, unknownKind := some 980, literal := some 974,
    option := some 970 }

end Room

/-- Why a value has no text. -/
inductive TextLimit where
  | digits
  | levels
  deriving DecidableEq, Repr

namespace Value

/-- The most digits that an integer may have where it is read or written. -/
def maxDigits : Nat := 4300

end Value

def TextLimit.message : TextLimit → String
  | digits =>
    "Exceeds the limit (" ++ toString Value.maxDigits ++ " digits) for integer string conversion; " ++
      "use sys.set_int_max_str_digits() to increase the limit"
  | levels => "maximum recursion depth exceeded while getting the repr of an object"

namespace Value

mutual

/-- The first limit that the text of a value runs into, with room for so many levels below it. -/
def limit? (levels : Option Nat) : Value → Option TextLimit
  | .int n => if maxDigits < (Nat.toDigits 10 n.natAbs).length then some .digits else none
  | .list items => itemsLimit? levels items
  | .object fields => fieldsLimit? levels fields
  | .null | .bool _ | .float _ | .text _ => none

def itemsLimit? (levels : Option Nat) : List Value → Option TextLimit
  | [] => none
  | v :: rest =>
    if levels = some 0 then some .levels
    else (limit? (levels.map (· - 1)) v).or (itemsLimit? levels rest)

def fieldsLimit? (levels : Option Nat) : List (String × Value) → Option TextLimit
  | [] => none
  | (_, v) :: rest =>
    if levels = some 0 then some .levels
    else (limit? (levels.map (· - 1)) v).or (fieldsLimit? levels rest)

end

/-- Goes on if a value has a text. -/
def checkText (v : Value) (levels : Option Nat) : Except TextLimit Unit :=
  match v.limit? levels with
  | some l => .error l
  | none => .ok ()

mutual

/-- How many lists and objects stand inside each other. -/
def depth : Value → Nat
  | .list items => itemsDepth items + 1
  | .object fields => fieldsDepth fields + 1
  | .null | .bool _ | .int _ | .float _ | .text _ => 0

def itemsDepth : List Value → Nat
  | [] => 0
  | v :: rest => max (depth v) (itemsDepth rest)

def fieldsDepth : List (String × Value) → Nat
  | [] => 0
  | (_, v) :: rest => max (depth v) (fieldsDepth rest)

end

end Value

end SchemaTypings
