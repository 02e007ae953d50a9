/-!
# Documents of the schema language

What a text in the schema language says: definitions of types and directives, extensions, the schema
itself, and operations, which only have to be well formed.
-/

namespace SchemaTypings

/-- A type at a field or argument, each level nullable or not. -/
inductive TypeRef where
  | named (nullable : Bool) (name : String)
  | list (nullable : Bool) (item : TypeRef)
  deriving DecidableEq, Repr, Inhabited

namespace TypeRef

def nullable : TypeRef → Bool
  | named n _ => n
  | list n _ => n

/-- The type at the innermost level. -/
def name : TypeRef → String
  | named _ n => n
  | list _ item => item.name

/-- The same type with its outermost level not nullable. -/
def required : TypeRef → TypeRef
  | named _ n => named false n
  | list _ item => list false item

/-- The type as the schema language writes it. -/
def text : TypeRef → String
  | named nullable n => n ++ (if nullable then "" else "!")
  | list nullable item => "[" ++ item.text ++ "]" ++ (if nullable then "" else "!")

end TypeRef

namespace Sdl

/-- A constant, or a variable where one is allowed. -/
inductive Const where
  | variable (name : String)
  | int (s : String)
  | float (s : String)
  | text (s : String)
  | bool (b : Bool)
  | null
  | enum (name : String)
  | list (items : List Const)
  | object (fields : List (String × Const))
  deriving Repr, Inhabited

structure DirectiveUse where
  name : String
  arguments : List (String × Const)
  deriving Repr

structure InputDef where
  description : Option String
  name : String
  type : TypeRef
  default : Option Const
  directives : List DirectiveUse
  deriving Repr

structure FieldDef where
  description : Option String
  name : String
  arguments : List InputDef
  type : TypeRef
  directives : List DirectiveUse
  deriving Repr

structure EnumValueDef where
  description : Option String
  name : String
  directives : List DirectiveUse
  deriving Repr

inductive TypeBody where
  | scalar
  | object (interfaces : List String) (fields : List FieldDef)
  | interface (interfaces : List String) (fields : List FieldDef)
  | union (members : List String)
  | enum (values : List EnumValueDef)
  | input (fields : List InputDef)
  deriving Repr

structure TypeDef where
  description : Option String
  name : String
  directives : List DirectiveUse
  body : TypeBody
  deriving Repr

structure DirectiveDef where
  description : Option String
  name : String
  arguments : List InputDef
  directives : List DirectiveUse
  repeatable : Bool
  locations : List String
  deriving Repr

/-- Directives that are added to the definition of a directive. -/
structure DirectiveExtension where
  name : String
  directives : List DirectiveUse
  deriving Repr

/-- The schema's own directives, and a type for each kind of operation. -/
structure SchemaDef where
  directives : List DirectiveUse
  operations : List (String × String)
  deriving Repr

inductive Selection where
  | field (arguments : List (String × Const)) (directives : List DirectiveUse)
      (selections : List Selection)
  | spread (directives : List DirectiveUse)
  | inline (onType : Option String) (directives : List DirectiveUse) (selections : List Selection)
  deriving Repr

structure VariableDef where
  type : TypeRef
  default : Option Const
  directives : List DirectiveUse
  deriving Repr

inductive Definition where
  | type (d : TypeDef)
  | extendType (d : TypeDef)
  | directive (d : DirectiveDef)
  | extendDirective (d : DirectiveExtension)
  | schema (d : SchemaDef)
  | extendSchema (d : SchemaDef)
  | operation (kind : String) (inputs : List VariableDef) (directives : List DirectiveUse)
      (selections : List Selection)
  | fragment (onType : String) (directives : List DirectiveUse) (selections : List Selection)
  deriving Repr

abbrev Document := List Definition

end Sdl

end SchemaTypings
