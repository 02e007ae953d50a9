import SchemaTypings.Folder.Limit
import SchemaTypings.Table
import SchemaTypings.Text.Blank

/-!
# Options on the command line

Single options are given as `KEY=VALUE`. A value that reads as JSON is what it reads as, any other one
is text. An integer that is too long is neither.
-/

namespace SchemaTypings.Console

inductive OverrideError where
  /-- An option without a key or without an equals sign. -/
  | malformed (option : String)
  /-- An option without a text. -/
  | missing
  | limit (l : Limit)
  deriving DecidableEq, Repr

def OverrideError.message : OverrideError → String
  | malformed option => "Invalid option '" ++ option ++ "', expected KEY=VALUE"
  | missing => "An option is without its text"
  | limit l => l.message

/-- What a text says as JSON, or the text itself. -/
def valueOf (text : String) : Except OverrideError Value :=
  match Json.read text with
  | .ok v => .ok v
  | .error e => e.limit?.elim (.ok (.text text)) fun l => .error (.limit l)

/-- Reads one option; the first equals sign ends the key. -/
def parseOverride : Option String → Except OverrideError (String × Value)
  | none => .error .missing
  | some option =>
    match Text.cutFirst ['='] option.toList with
    | none => .error (.malformed option)
    | some (key, value) =>
      let key := Text.trim key
      if key.isEmpty then .error (.malformed option)
      else (valueOf (String.ofList value)).map fun v => (String.ofList key, v)

/-- Reads options in order; a repeated key takes its last value. -/
def parseOverrides (options : List (Option String)) : Except OverrideError (Table String Value) :=
  (options.mapM parseOverride).map Table.ofPairs

end SchemaTypings.Console
