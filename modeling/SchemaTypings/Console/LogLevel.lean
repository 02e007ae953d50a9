import SchemaTypings.Text.LetterCase
import SchemaTypings.Value.Text

/-!
# Logging

How loggers are named below a package, and the levels from which on they report.
-/

namespace SchemaTypings.Console

/-- A logger's name in a package: itself if it belongs there, else below the package. -/
def loggerName (package name : String) : String :=
  if name = package || (package ++ ".").toList.isPrefixOf name.toList then name
  else package ++ "." ++ name

/-- The levels by name, in capitals. -/
def levels : List (String × Int) :=
  [("NOTSET", 0), ("DEBUG", 10), ("INFO", 20), ("WARN", 30), ("WARNING", 30), ("ERROR", 40),
   ("CRITICAL", 50), ("FATAL", 50)]

inductive LogLevelError where
  | unknown (name : String)
  | shape (given : Value)

def LogLevelError.message : LogLevelError → String
  | unknown name => "Unknown log level: Level " ++ name
  | shape given => "Level not an integer or a valid string: " ++ given.display

/-- A level given by number, or by name in any letter case. -/
def logLevel : Value → Except LogLevelError Int
  | .int n => .ok n
  | .bool b => .ok (if b then 1 else 0)
  | .text name =>
    let name := Text.upperString name
    match List.lookup name levels with
    | some level => .ok level
    | none => .error (.unknown name)
  | v => .error (.shape v)

end SchemaTypings.Console
