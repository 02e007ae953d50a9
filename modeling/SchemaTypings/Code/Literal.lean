import SchemaTypings.Value.Limit
import SchemaTypings.Value.Text

/-!
# Literals

Values as literals of the written code: numbers bare, all else as text in single quotes. A value that
has no text for its limits has no literal, either.
-/

namespace SchemaTypings.Code

/-- A backslash goes before each backslash and each single quote. -/
def escapeQuoted : List Char → List Char
  | [] => []
  | c :: rest =>
    if c = '\\' ∨ c = '\'' then '\\' :: c :: escapeQuoted rest else c :: escapeQuoted rest

def quoteChars (cs : List Char) : List Char := '\'' :: (escapeQuoted cs ++ ['\''])

def quote (s : String) : String := String.ofList (quoteChars s.toList)

/-- The literal of a value within its limits. -/
def literal : Value → String
  | .int n => (Value.int n).display
  | .float x => (Value.float x).display
  | v => quote v.display

/-- The literal of a value, where there is room for so many levels. -/
def literalWithin (levels : Option Nat) (v : Value) : Except TextLimit String := do
  v.checkText levels
  return literal v

/-! ## Reading a quoted text back -/

/-- The text inside quotes, up to the first quote that no backslash stands before; nothing follows. -/
def unquoteBody : List Char → Option (List Char)
  | ['\''] => some []
  | '\\' :: c :: rest => (unquoteBody rest).map (c :: ·)
  | c :: rest => if c = '\'' ∨ c = '\\' then none else (unquoteBody rest).map (c :: ·)
  | [] => none

def unquote : List Char → Option (List Char)
  | '\'' :: rest => unquoteBody rest
  | _ => none

end SchemaTypings.Code
