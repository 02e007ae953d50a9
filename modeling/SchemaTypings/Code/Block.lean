import SchemaTypings.Code.Comment

/-!
# Blocks

A block is one declaration of the written file, its members already texts, with the layout that its
construct calls for.
-/

namespace SchemaTypings.Code

/-- What a declaration declares. -/
inductive Construct where
  | scalars
  | directiveMappings
  | object
  | interface
  | input
  | oneOfInput
  | arguments
  | union
  | enum
  | enumAsType
  | enumAsConst
  deriving DecidableEq, Repr, Inhabited

namespace Construct

def all : List Construct :=
  [scalars, directiveMappings, object, interface, input, oneOfInput, arguments, union, enum,
   enumAsType, enumAsConst]

def label : Construct → String
  | scalars => "scalars"
  | directiveMappings => "directive_mappings"
  | object => "object"
  | interface => "interface"
  | input => "input"
  | oneOfInput => "one_of_input"
  | arguments => "arguments"
  | union => "union"
  | enum => "enum"
  | enumAsType => "enum_as_type"
  | enumAsConst => "enum_as_const"

/-- How messages name the layout that a construct is written in. -/
def layout : Construct → String
  | scalars | directiveMappings | object | interface | input | arguments => "block"
  | oneOfInput => "one_of"
  | union => "union"
  | enum => "enum"
  | enumAsType => "enum_type"
  | enumAsConst => "enum_const"

end Construct

structure Block where
  construct : Construct
  name : String
  keyword : String := "type"
  members : List String := []
  bases : List String := []
  comment : Option String := none
  exported : Bool := true
  isConst : Bool := false
  deriving DecidableEq, Repr

namespace Block

def opening : String := "\x7b"

def closing : String := "\x7d"

def exportWord (b : Block) : String := if b.exported then "export " else ""

/-- The members below each other, each two blanks in. -/
def indented (b : Block) (sep : String) : String := sep.intercalate (b.members.map (indent 2))

/-- A type by its members: an intersection with its bases, or an interface or class below them. -/
def fieldsText (b : Block) : String :=
  let isAlias := b.keyword = "type"
  let bases :=
    if isAlias then " = " ++ String.join (b.bases.map (· ++ " & "))
    else if b.bases.isEmpty then " "
    else (if b.keyword = "interface" then " extends " else " implements ") ++
      ", ".intercalate b.bases ++ " "
  let body :=
    if b.members.isEmpty then opening ++ closing
    else opening ++ "\n" ++ b.indented "\n" ++ "\n" ++ closing
  b.exportWord ++ b.keyword ++ " " ++ b.name ++ bases ++ body ++ (if isAlias then ";" else "")

/-- A union on one line. -/
def unionText (b : Block) : String :=
  b.exportWord ++ "type " ++ b.name ++ " = " ++ " | ".intercalate b.members ++ ";"

/-- A union with a line for each variant. -/
def variantsText (b : Block) : String :=
  b.exportWord ++ "type " ++ b.name ++ " =\n" ++ b.indented "\n" ++ ";"

def enumText (b : Block) : String :=
  b.exportWord ++ (if b.isConst then "const " else "") ++ "enum " ++ b.name ++ " " ++ opening ++
    "\n" ++ b.indented ",\n" ++ "\n" ++ closing ++ (if b.isConst then ";" else "")

/-- A constant object, and the union of its values under the same name. -/
def constText (b : Block) : String :=
  b.exportWord ++ "const " ++ b.name ++ " = " ++ opening ++ "\n" ++ b.indented ",\n" ++ "\n" ++
    closing ++ " as const;\n\n" ++ b.exportWord ++ "type " ++ b.name ++ " = typeof " ++ b.name ++
    "[keyof typeof " ++ b.name ++ "];"

def body (b : Block) : String :=
  match b.construct with
  | .scalars | .directiveMappings | .object | .interface | .input | .arguments => b.fieldsText
  | .oneOfInput | .enumAsType => b.variantsText
  | .union => b.unionText
  | .enum => b.enumText
  | .enumAsConst => b.constText

/-- The text of a block under its comment. -/
def render (b : Block) : String := withComment b.body b.comment

end Block

end SchemaTypings.Code
