import SchemaTypings.Code.Names
import SchemaTypings.Schema.Basic

/-!
# Type expressions

The type at a field or argument as an expression: what it refers to, and the wrappers that say which
of its levels are lists and which may be missing. From the innermost outwards a reference is wrapped
for its field, then for each level as possibly missing and as a list, and at last as a whole.
-/

namespace SchemaTypings.Code

open SchemaTypings (Settings TypeRef)

inductive Wrapper where
  | maybe
  | inputMaybe
  | array
  | readonlyArray
  | field
  | entireField
  deriving DecidableEq, Repr

def Wrapper.name : Wrapper → String
  | maybe => "Maybe"
  | inputMaybe => "InputMaybe"
  | array => "Array"
  | readonlyArray => "ReadonlyArray"
  | field => "FieldWrapper"
  | entireField => "EntireFieldWrapper"

/-- What an expression refers to. -/
inductive Reference where
  /-- A row of the scalars declaration. -/
  | scalar (name : String)
  /-- A row of the declaration of types mapped to directives. -/
  | directive (name : String)
  | declared (identifier : String)
  /-- An enum that may also hold a value added later, or a text equal to one of its values. -/
  | enum (identifier : String) (futureProof stringTypes : Bool)
  /-- The objects that an abstract type can stand for. -/
  | anyOf (identifiers : List String)
  deriving DecidableEq, Repr

/-- Stands for the values that an enum may get later. -/
def futureValue : String := "'%future added value'"

def entry (declaration row : String) : String := declaration ++ "['" ++ row ++ "']"

def Reference.render : Reference → String
  | scalar name => entry scalarsName name
  | directive name => entry directiveMappingsName name
  | declared identifier => identifier
  | enum identifier futureProof stringTypes =>
    " | ".intercalate ([identifier] ++ (if futureProof then [futureValue] else []) ++
      (if stringTypes then ["\x60$\x7b" ++ identifier ++ "\x7d\x60"] else []))
  | anyOf [] => "never"
  | anyOf identifiers => " | ".intercalate identifiers

/-- A reference inside wrappers, the outermost first. -/
structure TypeExpr (α : Type) where
  wrappers : List Wrapper
  core : α
  deriving DecidableEq, Repr

/-- Writes wrappers around a text. -/
def wrapText (wrappers : List Wrapper) (text : String) : String :=
  wrappers.foldr (fun w text => w.name ++ "<" ++ text ++ ">") text

def TypeExpr.render {α : Type} (e : TypeExpr α) (text : α → String) : String :=
  wrapText e.wrappers (text e.core)

/-! ## Wrapping -/

/-- The wrappers of a type, level by level, around those of its innermost one. -/
def levelWrappers (missing many : Wrapper) (inner : List Wrapper) : TypeRef → List Wrapper
  | .named nullable _ => (if nullable then [missing] else []) ++ inner
  | .list nullable item =>
    (if nullable then [missing] else []) ++ many :: levelWrappers missing many inner item

/-- The type of an attribute, and whether it may be left out or changed. -/
structure AttributeType (α : Type) where
  type : TypeExpr α
  isOptional : Bool
  isReadonly : Bool

end SchemaTypings.Code

namespace SchemaTypings.Settings

open SchemaTypings.Code

def arrayWrapper (s : Settings) : Wrapper := if s.immutable then .readonlyArray else .array

/-- The expression of a type in output position. -/
def outputExpr {α : Type} (s : Settings) (t : TypeRef) (core : α) : TypeExpr α :=
  let inner := if s.wrapFields then [Wrapper.field] else []
  { wrappers := (if s.wrapEntireFields then [Wrapper.entireField] else []) ++
      levelWrappers .maybe s.arrayWrapper inner t,
    core }

/-- The expression of a type in input position. -/
def inputExpr {α : Type} (s : Settings) (t : TypeRef) (core : α) : TypeExpr α :=
  { wrappers := levelWrappers .inputMaybe s.arrayWrapper [] t, core }

/-- The expression of an input that has to be given: its outermost level is not missing. -/
def requiredInputExpr {α : Type} (s : Settings) (t : TypeRef) (core : α) : TypeExpr α :=
  s.inputExpr t.required core

def outputAttribute {α : Type} (s : Settings) (t : TypeRef) (core : α) : AttributeType α :=
  { type := s.outputExpr t core, isOptional := t.nullable && !s.avoid.field,
    isReadonly := s.immutable }

/-- An input may be left out if it has a default or may be missing, unless the settings forbid it. -/
def inputIsOptional (s : Settings) (t : TypeRef) (hasDefault : Bool) : Bool :=
  if hasDefault && !s.avoid.defaultValue then true else t.nullable && !s.avoid.inputValue

/-- An input attribute; an override stands in place of the whole wrapped type. -/
def inputAttribute {α : Type} (s : Settings) (t : TypeRef) (hasDefault : Bool)
    (override : Option α) (core : α) : AttributeType α :=
  { type :=
      match override with
      | some o => { wrappers := [], core := o }
      | none => s.inputExpr t core
    isOptional := s.inputIsOptional t hasDefault, isReadonly := s.immutable }

/-- How an enum is referred to. -/
def enumReference (s : Settings) (identifier : String) : Reference :=
  if s.enumForm = .stringUnion then .declared identifier
  else .enum identifier s.futureProofEnums s.enumStringTypes

end SchemaTypings.Settings

namespace SchemaTypings.Code

def readonlyWord (isReadonly : Bool) : String := if isReadonly then "readonly " else ""

/-- The line `name: type;` of an attribute. -/
def attributeText (name type : String) (isOptional isReadonly : Bool) : String :=
  readonlyWord isReadonly ++ name ++ (if isOptional then "?" else "") ++ ": " ++ type ++ ";"

def AttributeType.render {α : Type} (a : AttributeType α) (name : String) (text : α → String) :
    String :=
  attributeText name (a.type.render text) a.isOptional a.isReadonly

end SchemaTypings.Code
