import SchemaTypings.Decimal.Shortest
import SchemaTypings.Text.Printable
import SchemaTypings.Value.Basic

/-!
# The text of a value

A text is written as it stands. Inside a list or an object it is quoted, with marks for the
characters that do not show. A value that runs into a limit has no text; what is written here then is
what its text would be without the limit.
-/

namespace SchemaTypings.Value

/-- `count` hexadecimal digits of `n`, padded with zeros. -/
def hexDigits (count n : Nat) : List Char :=
  let digits := Nat.toDigits 16 n
  List.replicate (count - digits.length) '0' ++ digits

/-- A character inside a quoted text. -/
def quotedChar (quote c : Char) : List Char :=
  if c = quote ∨ c = '\\' then ['\\', c]
  else if c = '\n' then ['\\', 'n']
  else if c = '\r' then ['\\', 'r']
  else if c = '\t' then ['\\', 't']
  else if Text.isPrintable c then [c]
  else if c.toNat < 0x100 then '\\' :: 'x' :: hexDigits 2 c.toNat
  else if c.toNat < 0x10000 then '\\' :: 'u' :: hexDigits 4 c.toNat
  else '\\' :: 'U' :: hexDigits 8 c.toNat

/-- Single quotes, unless the text holds a single quote and no double one. -/
def quoteMark (cs : List Char) : Char :=
  if cs.contains '\'' && !cs.contains '"' then '"' else '\''

def quoted (s : String) : String :=
  let cs := s.toList
  let quote := quoteMark cs
  String.ofList (quote :: (cs.flatMap (quotedChar quote) ++ [quote]))

def boolText (b : Bool) : String := if b then "True" else "False"

mutual

/-- The text of a value inside another one. -/
def inner : Value → String
  | .null => "None"
  | .bool b => boolText b
  | .int n => toString n
  | .float x => x.text
  | .text s => quoted s
  | .list items => "[" ++ ", ".intercalate (innerItems items) ++ "]"
  | .object fields => "\x7b" ++ ", ".intercalate (innerFields fields) ++ "\x7d"

def innerItems : List Value → List String
  | [] => []
  | v :: rest => inner v :: innerItems rest

def innerFields : List (String × Value) → List String
  | [] => []
  | (k, v) :: rest => (quoted k ++ ": " ++ inner v) :: innerFields rest

end

/-- The text of a value standing alone. -/
def display : Value → String
  | .text s => s
  | v => inner v

/-- The texts of what a value is gone through by: the items of a list, the characters of a text, the
keys of an object. -/
def parts? : Value → Option (List String)
  | .list items => some (items.map display)
  | .text s => some (s.toList.map fun c => String.ofList [c])
  | .object fields => some (Table.keys fields)
  | _ => none

end SchemaTypings.Value
