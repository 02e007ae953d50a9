import SchemaTypings.Code.Error
import SchemaTypings.Text.Blank

/-!
# Comments

Documentation comments around descriptions and deprecation notices, and the indentation of what
stands inside a block. Text in a comment cannot end it: its `*/` are broken up first.
-/

namespace SchemaTypings.Code

open SchemaTypings (Note Value)

/-! ## Comments over characters -/

/-- Puts a backslash into each `*/`. -/
def guardEnd : List Char → List Char
  | '*' :: '/' :: rest => '*' :: '\\' :: '/' :: guardEnd rest
  | c :: rest => c :: guardEnd rest
  | [] => []

/-- The lines of a comment's text, without outer empty lines. -/
def commentLines (text : List Char) : List (List Char) :=
  Text.cut '\n' (Text.trimOf (· == '\n') (guardEnd text))

/-- A line inside a comment of several lines. -/
def innerLine (line : List Char) : List Char :=
  if line.all Text.isBlank then [' ', '*'] else [' ', '*', ' '] ++ line

/-- A comment: on one line if its text is one, with a line for each line otherwise. An empty text
makes no comment. -/
def commentChars (text : List Char) : List Char :=
  if text.isEmpty then []
  else
    match commentLines text with
    | [line] => ['/', '*', '*', ' '] ++ line ++ [' ', '*', '/']
    | lines =>
      Text.join ['\n'] (['/', '*', '*'] :: lines.map innerLine ++ [[' ', '*', '/']])

/-- Moves each line that is not blank to the right. -/
def indentChars (spaces : Nat) (text : List Char) : List Char :=
  Text.join ['\n'] ((Text.cut '\n' text).map fun line =>
    if line.all Text.isBlank then line else List.replicate spaces ' ' ++ line)

/-! ## The same on strings -/

def comment (text : String) : String := String.ofList (commentChars text.toList)

def indent (spaces : Nat) (text : String) : String :=
  String.ofList (indentChars spaces text.toList)

/-- A text under its comment, if it has one that is not empty. -/
def withComment (text : String) : Option String → String
  | none => text
  | some note => if note.isEmpty then text else comment note ++ "\n" ++ text

/-- The lines that a description adds to a comment. -/
def descriptionLines (description : Note) (describe : Bool) : Except EmitError (List String) :=
  if !describe || !description.truthy then .ok []
  else
    match description with
    | .text s => .ok [s]
    | v => .error (.noteNotText v)

/-- A description and a deprecation notice as the text of one comment. The notice stays when
descriptions are left out. -/
def note? (description deprecation : Note) (describe : Bool) :
    Except EmitError (Option String) := do
  let lines := (← descriptionLines description describe) ++
    ((Note.said? deprecation).map ("@deprecated " ++ ·)).toList
  return if lines.isEmpty then none else some ("\n".intercalate lines)

end SchemaTypings.Code
