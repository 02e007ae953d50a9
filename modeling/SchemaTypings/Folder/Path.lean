import SchemaTypings.Text.Blank
import SchemaTypings.Text.LetterCase

/-!
# Paths

A path as its parts between slashes. Empty parts and parts that are a single dot say nothing and are
left out; two dots stay.
-/

namespace SchemaTypings

structure Path where
  /-- The slashes that a path from the top starts with. -/
  root : String
  parts : List String
  deriving DecidableEq, Repr

namespace Path

/-- One slash, or two where there are exactly two; more count as one. -/
def rootOf : List Char → String
  | '/' :: '/' :: '/' :: _ => "/"
  | '/' :: '/' :: _ => "//"
  | '/' :: _ => "/"
  | _ => ""

def ofString (s : String) : Path :=
  let parts := (Text.cut '/' s.toList).filter fun p => !p.isEmpty && p != ['.']
  { root := rootOf s.toList, parts := parts.map String.ofList }

/-- A path without parts is a dot, or its root. -/
def text (p : Path) : String :=
  if p.parts.isEmpty && p.root.isEmpty then "." else p.root ++ "/".intercalate p.parts

def fileName (p : Path) : String := p.parts.getLastD ""

/-- The end of a name from its last dot, if something stands on both sides of it. -/
def suffixOf (name : List Char) : List Char :=
  match Text.cutLast '.' name with
  | some (front, rest) => if front.isEmpty || rest.isEmpty then [] else '.' :: rest
  | none => []

/-- The suffix of a path in lower case. -/
def suffix (p : Path) : String :=
  Text.lowerString (String.ofList (suffixOf p.fileName.toList))

end Path

end SchemaTypings
