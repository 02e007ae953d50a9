import SchemaTypings.Sdl.Check
import SchemaTypings.Value.Text

/-!
# Schemas

The named types of a schema in the order of their definitions, with what a run needs to know of their
fields, arguments and values.
-/

namespace SchemaTypings

/-- A description or the notice of a deprecation: null if there is none, else a text. Only a schema that
describes itself can give another value. -/
abbrev Note := Value

def Note.ofText? : Option String → Note
  | some s => .text s
  | none => .null

/-- What a note says. A false one says nothing. -/
def Note.said? (note : Note) : Option String := if note.truthy then some note.display else none

/-- An argument or an input field. -/
structure InputValue where
  name : String
  type : TypeRef
  description : Note
  deprecation : Note
  hasDefault : Bool
  directives : List String
  deriving DecidableEq, Repr

structure Field where
  name : String
  type : TypeRef
  description : Note
  deprecation : Note
  directives : List String
  arguments : List InputValue
  deriving DecidableEq, Repr

/-- What a schema stores behind the name of an enum value: a value, or a constant carrying one. -/
inductive StoredValue where
  | plain (v : Value)
  | constant (v : Value)
  deriving DecidableEq

def StoredValue.value : StoredValue → Value
  | plain v | constant v => v

structure EnumValue where
  name : String
  description : Note
  deprecation : Note
  stored : StoredValue
  deriving DecidableEq

/-- Why the values of an enum cannot be told. An enum keeps such a fault until its values are asked
for. -/
inductive ValuesFault where
  /-- The notice of a deprecation is no text. -/
  | badNotice (value : String)
  | badName (name : String)
  | nameNotText (name : Value)
  deriving DecidableEq

def ValuesFault.message : ValuesFault → String
  | badNotice value => "The notice of the deprecated value " ++ value ++ " is no text"
  | badName name => "No name for an enum value: " ++ name
  | nameNotText name => "No text as the name of an enum value: " ++ name.display

inductive TypeBody where
  | scalar
  | object (interfaces : List String) (fields : List Field)
  | interface (interfaces : List String) (fields : List Field)
  | union (members : List String)
  | enum (values : Except ValuesFault (List EnumValue))
  | input (oneOf : Bool) (fields : List InputValue)

/-- A named type; its directives are those of its definition, then those of its extensions. -/
structure NamedType where
  name : String
  description : Note
  directives : List String
  body : TypeBody

structure Schema where
  /-- The types in order, built-in scalars among them where they are first used. -/
  types : List NamedType
  /-- The directives with their descriptions. -/
  directives : List (String × Note)

/-! ## What is set on an enum value -/

/-- The value that is set behind the name of an enum value, if it says more than the name: a number
or a text that differs from it. -/
def StoredValue.setValue? (stored : StoredValue) (name : String) : Option Value :=
  match stored.value with
  | .text s => if s = name then none else some (.text s)
  | .int n => some (.int n)
  | .float x => some (.float x)
  | _ => none

namespace NamedType

def isBuiltinScalar (t : NamedType) : Bool := Sdl.builtinScalars.contains t.name

def isScalar (t : NamedType) : Bool :=
  match t.body with
  | .scalar => true
  | _ => false

/-- Whether exactly one field of an input may be given. -/
def isOneOf (t : NamedType) : Bool :=
  (match t.body with
    | .input oneOf _ => oneOf
    | _ => false) || t.directives.contains "oneOf"

def interfaces (t : NamedType) : List String :=
  match t.body with
  | .object interfaces _ | .interface interfaces _ => interfaces
  | _ => []

/-- The number of fields of a type that has fields. -/
def fieldCount? (t : NamedType) : Option Nat :=
  match t.body with
  | .object _ fields | .interface _ fields => some fields.length
  | .input _ fields => some fields.length
  | _ => none

end NamedType

/-- Why a change cannot be made. -/
inductive ChangeFault where
  /-- There is no type, value or field of this name. -/
  | unknown (name : String)
  /-- A type without values, or without fields, where one with them is needed. -/
  | otherKind (type : String)
  | values (fault : ValuesFault)

def ChangeFault.message : ChangeFault → String
  | unknown name => "Nothing is named '" ++ name ++ "'"
  | otherKind type => "'" ++ type ++ "' has no such parts"
  | values fault => fault.message

namespace Schema

/-- Names with two leading underscores are reserved for the schema's description of itself. -/
def isReserved (name : String) : Bool := ['_', '_'].isPrefixOf name.toList

def userTypes (s : Schema) : List NamedType := s.types.filter fun t => !isReserved t.name

/-- The types in which a schema describes itself, of which only the kinds matter. -/
def introspection : List NamedType :=
  (Sdl.introspectionObjects.map fun name =>
    { name, description := .null, directives := [], body := .object [] [] }) ++
  (Sdl.introspectionEnums.map fun name =>
    { name, description := .null, directives := [], body := .enum (.ok []) })

def find? (s : Schema) (name : String) : Option NamedType :=
  (s.types ++ introspection).find? fun t => t.name = name

def directive? (s : Schema) (name : String) : Option Note := s.directives.lookup name

/-! ## Types that an abstract type can stand for -/

/-- The objects that name an interface as theirs, once for each time. -/
def directObjects (s : Schema) (interface : String) : List String :=
  s.types.flatMap fun t =>
    match t.body with
    | .object interfaces _ =>
      (interfaces.filter fun i => i = interface).map fun _ => t.name
    | _ => []

/-- The interfaces that name an interface as theirs, once for each time. -/
def directInterfaces (s : Schema) (interface : String) : List String :=
  s.types.flatMap fun t =>
    match t.body with
    | .interface interfaces _ =>
      (interfaces.filter fun i => i = interface).map fun _ => t.name
    | _ => []

/-- The names of a list that are not known yet, added to those that are. -/
def addNew (known names : List String) : List String :=
  names.foldl (fun known name => if known.contains name then known else known ++ [name]) known

mutual

/-- Adds the objects below an interface; `seen` holds the interfaces already visited. -/
def collectObjects (s : Schema) :
    Nat → String → List String × List String → List String × List String
  | 0, _, state => state
  | fuel + 1, interface, (seen, found) =>
    if seen.contains interface then (seen, found)
    else
      collectEach s fuel (s.directInterfaces interface)
        (seen ++ [interface], addNew found (s.directObjects interface))

def collectEach (s : Schema) :
    Nat → List String → List String × List String → List String × List String
  | _, [], state => state
  | 0, _ :: _, state => state
  | fuel + 1, interface :: rest, state =>
    collectEach s fuel rest (collectObjects s fuel interface state)

end

/-- More steps than a walk over all interfaces takes. -/
def walkBound (s : Schema) : Nat :=
  let links := s.types.flatMap fun t => t.interfaces
  2 * (s.types.length + links.length) + 4

/-- The objects that implement an interface or one below it, each once, in order of discovery. -/
def implementingObjects (s : Schema) (interface : String) : List String :=
  (collectObjects s s.walkBound interface ([], [])).2

/-- The types that a union or an interface can stand for. -/
def possibleTypes (s : Schema) (t : NamedType) : List String :=
  match t.body with
  | .union members => members
  | .interface .. => s.implementingObjects t.name
  | _ => []

/-! ## Changes by hand -/

/-- Puts a changed type in the place of the one that has the name. -/
def changeType (s : Schema) (name : String) (f : NamedType → Except ChangeFault NamedType) :
    Except ChangeFault Schema := do
  let some t := s.find? name | throw (.unknown name)
  let changed ← f t
  return { s with types := s.types.map fun t => if t.name = name then changed else t }

/-- Stores a value behind the name of an enum value. -/
def storeEnumValue (s : Schema) (enum value : String) (stored : StoredValue) :
    Except ChangeFault Schema :=
  s.changeType enum fun t => do
    let .enum values := t.body | throw (.otherKind enum)
    let values ← values.mapError ChangeFault.values
    if values.all fun v => v.name ≠ value then throw (.unknown value)
    let changed := values.map fun v => if v.name = value then { v with stored } else v
    return { t with body := .enum (.ok changed) }

/-- Gives an input field a default. An output field stays as it is. -/
def storeDefault (s : Schema) (type field : String) : Except ChangeFault Schema :=
  s.changeType type fun t =>
    match t.body with
    | .input oneOf fields =>
      if fields.all fun f => f.name ≠ field then .error (.unknown field)
      else
        .ok { t with
          body := .input oneOf
            (fields.map fun f => if f.name = field then { f with hasDefault := true } else f) }
    | .object _ fields | .interface _ fields =>
      if fields.all fun f => f.name ≠ field then .error (.unknown field) else .ok t
    | _ => .error (.otherKind type)

/-- Marks an input of which one field is given. Other types stay as they are. -/
def markOneOf (s : Schema) (type : String) : Except ChangeFault Schema :=
  s.changeType type fun t =>
    match t.body with
    | .input _ fields => .ok { t with body := .input true fields }
    | _ => .ok t

end Schema

end SchemaTypings
