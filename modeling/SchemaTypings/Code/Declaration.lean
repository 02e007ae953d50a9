import SchemaTypings.Code.Block
import SchemaTypings.Code.Enums
import SchemaTypings.Code.ScalarTable

/-!
# Declarations

A declaration as data: what it declares, the members with their types, and the comments. Writing it
as a block comes last.
-/

namespace SchemaTypings.Code

open SchemaTypings (DeclarationKeyword EnumForm Note Value)

/-- A field or an argument. -/
structure Attribute where
  name : String
  type : AttributeType Reference
  comment : Option String

/-- One field of a variant: the one that has to be given, with its type, or one that must not be. -/
structure VariantField where
  name : String
  type : Option (TypeExpr Reference)

/-- A way to give exactly one field of an input. -/
abbrev Variant := List VariantField

/-- The line that tells an object by the name of its type. -/
structure Typename where
  name : String
  isOptional : Bool
  isReadonly : Bool

structure EnumLine where
  member : EnumMember
  comment : Option String

inductive DeclarationBody where
  | scalars (rows : List ScalarRow)
  | directiveMappings (rows : List ScalarRow)
  | object (keyword : DeclarationKeyword) (bases : List String) (typename : Option Typename)
      (fields : List Attribute)
  | interface (keyword : DeclarationKeyword) (bases : List String) (fields : List Attribute)
  | input (keyword : DeclarationKeyword) (fields : List Attribute)
  | arguments (keyword : DeclarationKeyword) (fields : List Attribute)
  | oneOf (isReadonly : Bool) (variants : List Variant)
  /-- A union; `openReadonly` says whether it is open to members that come later, and how that
  member's name is marked. -/
  | union (members : List Reference) (openReadonly : Option Bool)
  | enum (form : EnumForm) (futureProof : Bool) (lines : List EnumLine)

structure Declaration where
  identifier : String
  comment : Option String
  exported : Bool
  body : DeclarationBody

/-! ## Members as texts -/

def Attribute.text (a : Attribute) : String :=
  withComment (a.type.render a.name Reference.render) a.comment

def Typename.text (t : Typename) : String :=
  readonlyWord t.isReadonly ++ "__typename" ++ (if t.isOptional then "?" else "") ++ ": '" ++
    t.name ++ "';"

def ScalarRow.text (r : ScalarRow) : String :=
  withComment (r.name ++ ": " ++ r.type.display ++ ";") (Note.said? r.description)

def VariantField.text (isReadonly : Bool) (f : VariantField) : String :=
  match f.type with
  | some type => attributeText f.name (type.render Reference.render) false isReadonly
  | none => attributeText f.name "never" true isReadonly

def variantText (isReadonly : Bool) (v : Variant) : String :=
  "\x7b " ++ " ".intercalate (v.map (VariantField.text isReadonly)) ++ " \x7d"

/-- The lines of a union over variants; without any it is empty. -/
def variantLines (isReadonly : Bool) : List Variant → List String
  | [] => ["never"]
  | first :: rest =>
    variantText isReadonly first :: rest.map fun v => "| " ++ variantText isReadonly v

/-- Stands for the objects that a union may get later. -/
def otherMember (isReadonly : Bool) : String :=
  "\x7b " ++ readonlyWord isReadonly ++ "__typename?: \"%other\" \x7d"

def EnumLine.text (form : EnumForm) (l : EnumLine) : String :=
  let literal := l.member.literal
  let text :=
    match form with
    | .stringUnion => "| " ++ literal
    | .constObject => l.member.key ++ ": " ++ literal
    | .plain | .numbered | .constEnum => l.member.key ++ " = " ++ literal
  withComment text l.comment

/-! ## Declarations as blocks -/

namespace DeclarationBody

def construct : DeclarationBody → Construct
  | scalars _ => .scalars
  | directiveMappings _ => .directiveMappings
  | object .. => .object
  | interface .. => .interface
  | input .. => .input
  | arguments .. => .arguments
  | oneOf .. => .oneOfInput
  | union .. => .union
  | enum .stringUnion _ _ => .enumAsType
  | enum .constObject _ _ => .enumAsConst
  | enum .. => .enum

def keyword : DeclarationBody → DeclarationKeyword
  | object keyword .. | interface keyword .. | input keyword _ | arguments keyword _ => keyword
  | _ => .typeAlias

def bases : DeclarationBody → List String
  | object _ bases _ _ | interface _ bases _ => bases
  | _ => []

def members : DeclarationBody → List String
  | scalars rows | directiveMappings rows => rows.map ScalarRow.text
  | object _ _ typename fields => (typename.map Typename.text).toList ++ fields.map Attribute.text
  | interface _ _ fields | input _ fields | arguments _ fields => fields.map Attribute.text
  | oneOf isReadonly variants => variantLines isReadonly variants
  | union members openReadonly =>
    members.map Reference.render ++ (openReadonly.map otherMember).toList
  | enum form futureProof lines =>
    lines.map (EnumLine.text form) ++
      (if form = .stringUnion ∧ futureProof then ["| " ++ futureValue] else [])

end DeclarationBody

namespace Declaration

def toBlock (d : Declaration) : Block :=
  { construct := d.body.construct
    name := d.identifier
    keyword := d.body.keyword.word
    members := d.body.members
    bases := d.body.bases
    comment := d.comment
    exported := d.exported
    isConst :=
      match d.body with
      | .enum .constEnum _ _ => true
      | _ => false }

def render (d : Declaration) : String := d.toBlock.render

end Declaration

end SchemaTypings.Code
