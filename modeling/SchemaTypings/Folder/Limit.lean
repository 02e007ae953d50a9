import SchemaTypings.Folder.Basic
import SchemaTypings.Json.Reader
import SchemaTypings.Json.Writer

/-!
# Limits

A file can be beyond what can be read at all: its path may be too long to be followed, a number in it
too long to be taken in, or its values nested too deeply. Such a limit is passed on as it is, whatever
the file was to be read for. Values can be beyond what can be written, too, by a limit of its own.
-/

namespace SchemaTypings

inductive Limit where
  | digits (count : Nat)
  | levels
  /-- A value that cannot be put into text. -/
  | text (l : TextLimit)
  | pathLength
  deriving DecidableEq, Repr

def Limit.message : Limit → String
  | digits count => (Json.Fault.tooManyDigits count).message
  | levels => Json.Fault.tooManyLevels.message
  | text l => l.message
  | pathLength => Folder.Fault.nameTooLong.message

/-- The limit that a text runs into when it is read as JSON. -/
def Json.Fault.limit? : Json.Fault → Option Limit
  | .tooManyDigits count => some (.digits count)
  | .tooManyLevels => some .levels
  | _ => none

/-- The limit that a path runs into. -/
def Folder.Fault.limit? : Folder.Fault → Option Limit
  | .nameTooLong => some .pathLength
  | _ => none

/-- Writes a value as JSON. -/
def Json.dump (v : Value) (room : Room := .ample) : Except Limit String := do
  (v.checkText (some room.written)).mapError Limit.text
  return render v

end SchemaTypings
