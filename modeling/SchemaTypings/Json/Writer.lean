import SchemaTypings.Decimal.Shortest
import SchemaTypings.Value.Basic

/-!
# Writing JSON

Values as JSON text with two blanks per level. Characters outside ASCII stand for themselves; quotes,
backslashes and controls are escaped.
-/

namespace SchemaTypings.Json

open SchemaTypings (Value Binary64)

def hexDigit (n : Nat) : Char := (Nat.digitChar n)

/-- A character inside a JSON string. -/
def escapeChar (c : Char) : List Char :=
  if c = '"' then ['\\', '"']
  else if c = '\\' then ['\\', '\\']
  else if c = '\n' then ['\\', 'n']
  else if c = '\r' then ['\\', 'r']
  else if c = '\t' then ['\\', 't']
  else if c = '\x0c' then ['\\', 'f']
  else if c = '\x08' then ['\\', 'b']
  else if c.toNat < 0x20 then
    ['\\', 'u', '0', '0', hexDigit (c.toNat / 16), hexDigit (c.toNat % 16)]
  else [c]

def writeString (cs : List Char) : List Char := '"' :: (cs.flatMap escapeChar ++ ['"'])

def writeInt (n : Int) : List Char :=
  (if n < 0 then ['-'] else []) ++ Nat.toDigits 10 n.natAbs

/-- Numbers are laid out as elsewhere; those that are none have names of their own. -/
def numberLayout : Binary64.Layout :=
  { Binary64.layout with nan := "NaN", infinity := "Infinity" }

def newline (depth : Nat) : List Char := '\n' :: List.replicate (2 * depth) ' '

mutual

def write (depth : Nat) : Value → List Char
  | .null => "null".toList
  | .bool true => "true".toList
  | .bool false => "false".toList
  | .int n => writeInt n
  | .float x => (numberLayout.write x).toList
  | .text s => writeString s.toList
  | .list [] => "[]".toList
  | .list (v :: rest) =>
    '[' :: (newline (depth + 1) ++ write (depth + 1) v ++ writeItems (depth + 1) rest ++
      newline depth ++ [']'])
  | .object [] => ['\x7b', '\x7d']
  | .object ((k, v) :: rest) =>
    '\x7b' :: (newline (depth + 1) ++ writeString k.toList ++ [':', ' '] ++ write (depth + 1) v ++
      writeFields (depth + 1) rest ++ newline depth ++ ['\x7d'])

/-- The items after the first, each after a comma. -/
def writeItems (depth : Nat) : List Value → List Char
  | [] => []
  | v :: rest => ',' :: (newline depth ++ write depth v ++ writeItems depth rest)

def writeFields (depth : Nat) : List (String × Value) → List Char
  | [] => []
  | (k, v) :: rest =>
    ',' :: (newline depth ++ writeString k.toList ++ [':', ' '] ++ write depth v ++
      writeFields depth rest)

end

/-- The JSON text of a value. -/
def render (v : Value) : String := String.ofList (write 0 v)

end SchemaTypings.Json
