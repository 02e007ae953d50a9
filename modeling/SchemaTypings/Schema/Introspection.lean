import SchemaTypings.Schema.Build
import SchemaTypings.Value.Text

/-!
# Schemas that describe themselves

A schema can be had as the answer to a query about itself: a JSON object with its types, their fields
and so on. The types keep the order of the list. Applied directives are not part of such an answer.
-/

namespace SchemaTypings

/-- What can be wrong with a description. Entries that are needed before the types can be put
together are told apart from all other faults. -/
inductive IntrospectionFault where
  | incomplete (reason : String)
  | missingEntry (key : String)
  | notAnObject (given : Value)

def IntrospectionFault.message : IntrospectionFault → String
  | incomplete reason => reason
  | missingEntry key => "missing entry " ++ key
  | notAnObject given => "not an object: " ++ given.display

namespace Introspection

abbrev Answer := Except IntrospectionFault

def incomplete {α : Type} (reason : String) : Answer α := .error (.incomplete reason)

/-! ## Reading entries -/

/-- An entry that may be missing. -/
def entry (fields : List (String × Value)) (key : String) : Value :=
  (Table.get? fields key).getD .null

def objectOf (v : Value) : Answer (List (String × Value)) :=
  match v with
  | .object fields => .ok fields
  | v => .error (.notAnObject v)

/-- An entry that has to be there. -/
def needed (v : Value) (key : String) : Answer Value :=
  match v with
  | .object fields =>
    match Table.get? fields key with
    | some e => .ok e
    | none => .error (.missingEntry key)
  | _ => incomplete "not an object"

/-- The items of a list. A text counts as its characters and an object as its keys. -/
def itemsOf (v : Value) : Answer (List Value) :=
  match v with
  | .list items => .ok items
  | .text s => .ok (s.toList.map fun c => .text (String.ofList [c]))
  | .object fields => .ok (fields.map fun (k, _) => .text k)
  | _ => incomplete "not a list"

/-- The items of a list that has to be there. -/
def neededItems (fields : List (String × Value)) (key : String) : Answer (List Value) :=
  match entry fields key with
  | .null => incomplete ("missing " ++ key)
  | v => itemsOf v

/-- A name of the schema language. -/
def nameOf (v : Value) : Answer String :=
  match v with
  | .text s =>
    match s.toList with
    | c :: rest =>
      if Sdl.isNameStart c && rest.all Sdl.isNamePart then .ok s else incomplete "not a name"
    | [] => incomplete "an empty name"
  | _ => incomplete "not a name"

/-! ## Types that are put together -/

inductive Kind where
  | scalar
  | object
  | interface
  | union
  | enum
  | input
  deriving DecidableEq

def kinds : List (String × Kind) :=
  [("SCALAR", .scalar), ("OBJECT", .object), ("INTERFACE", .interface), ("UNION", .union),
   ("ENUM", .enum), ("INPUT_OBJECT", .input)]

/-- A type of the list before its parts are resolved. -/
structure Listed where
  name : String
  kind : Kind
  fields : List (String × Value)
  values : Except ValuesFault (List EnumValue)

def isStandard (name : String) : Bool := Sdl.standardTypes.contains name

/-- What a name of the list stands for; a standard type is what it always is. -/
def kindOf? (types : Table String Listed) (name : String) : Option Kind :=
  (Table.get? types name).map fun t =>
    if Sdl.builtinScalars.contains name then .scalar
    else if Sdl.introspectionObjects.contains name then .object
    else if Sdl.introspectionEnums.contains name then .enum
    else t.kind

/-- An enum value before its name is looked at; without a name, the object is missing that entry. -/
def listedValue (v : Value) : Answer (Value × List (String × Value)) := do
  let name ← needed v "name"
  if name.key?.isNone then incomplete "a name that is a list or an object"
  return (name, ← objectOf v)

/-- An enum value by its name, which is no literal word. -/
def enumValue : Value × List (String × Value) → Except ValuesFault EnumValue
  | (.text name, fields) =>
    match nameOf (.text name) with
    | .error _ => .error (.badName name)
    | .ok _ =>
      if name = "true" || name = "false" || name = "null" then .error (.badName name)
      else
        .ok { name, description := entry fields "description",
              deprecation := entry fields "deprecationReason", stored := .plain (.text name) }
  | (name, _) => .error (.nameNotText name)

/-- The values of an enum; a repeated name keeps its place and counts as the last one. -/
def enumValues (items : List (Value × List (String × Value))) :
    Except ValuesFault (List EnumValue) := do
  let values ← items.mapM enumValue
  return Table.values (Table.ofPairs (values.map fun v => (v.name, v)))

/-- The values of a listed enum; those of a standard type are never looked at. -/
def listedValues (name : Value) (fields : List (String × Value)) :
    Answer (List (Value × List (String × Value))) := do
  if (entry fields "enumValues").isNull then incomplete "missing enumValues"
  if name.key?.isNone then incomplete "a name that is a list or an object"
  if name.asText?.any isStandard then return []
  (← itemsOf (entry fields "enumValues")).mapM listedValue

/-- Reads the parts of a type that are needed at once. -/
def listedOf (name : Value) (fields : List (String × Value)) : Answer Listed := do
  let some kind := (entry fields "kind").asText?.bind fun word => List.lookup word kinds
    | incomplete "an unknown kind"
  if kind = .union && (entry fields "possibleTypes").isNull then
    incomplete "missing possible types"
  if kind = .input && (entry fields "inputFields").isNull then incomplete "missing input fields"
  let values ← if kind = .enum then listedValues name fields else pure []
  let name ← nameOf name
  if isStandard name && !(kind = .scalar || kind = .object || kind = .enum) then
    incomplete "a standard type of the wrong kind"
  return { name, kind, fields, values := enumValues values }

def listed (v : Value) : Answer (String × Listed) := do
  let name ← needed v "name"
  let t ← listedOf name (← objectOf v)
  return (t.name, t)

/-! ## References -/

def namedType (types : Table String Listed) (v : Value) : Answer (String × Kind) := do
  let fields ← objectOf v
  match entry fields "name" with
  | .text name =>
    match kindOf? types name with
    | some kind => return (name, kind)
    | none => incomplete ("unknown type " ++ name)
  | _ => incomplete "a reference without a name"

mutual

/-- A type reference, and the kind of the type at its innermost level. -/
def typeRef (types : Table String Listed) : Value → Answer (TypeRef × Kind)
  | .object fields => typeRefOf types fields fields
  | v => .error (.notAnObject v)

/-- Looks for the inner type among the entries still to be seen. -/
def typeRefOf (types : Table String Listed) (all : List (String × Value)) :
    List (String × Value) → Answer (TypeRef × Kind)
  | [] =>
    match entry all "kind" with
    | .text "LIST" | .text "NON_NULL" => incomplete "a type without an inner type"
    | _ => do
      let (name, kind) ← namedType types (.object all)
      return (.named true name, kind)
  | (key, inner) :: rest =>
    if key ≠ "ofType" || !inner.truthy then typeRefOf types all rest
    else
      match entry all "kind" with
      | .text "LIST" => do
        let (item, kind) ← typeRef types inner
        return (.list true item, kind)
      | .text "NON_NULL" => do
        let (t, kind) ← typeRef types inner
        if t.nullable then return (t.required, kind) else incomplete "required twice"
      | _ => typeRefOf types all rest

end

/-! ## Fields and arguments -/

def isInput (k : Kind) : Bool := k = .scalar || k = .enum || k = .input

/-- Whether a default is given; it has to be a constant of the schema language. -/
def defaultOf (v : Value) : Answer Bool :=
  match v with
  | .null => .ok false
  | .text s =>
    match Sdl.Const.read s with
    | .ok _ => .ok true
    | .error e => incomplete e.message
  | _ => incomplete "a default that is no text"

def inputValue (types : Table String Listed) (v : Value) : Answer InputValue := do
  let name ← needed v "name"
  let typeValue ← needed v "type"
  let (type, kind) ← typeRef types typeValue
  if !isInput kind then incomplete "not an input type"
  let fields ← objectOf v
  let hasDefault ← defaultOf (entry fields "defaultValue")
  return { name := ← nameOf name, type, hasDefault, directives := []
           description := entry fields "description"
           deprecation := entry fields "deprecationReason" }

/-- Values under their names; a repeated name keeps its place and counts as the last one. -/
def inputValues (types : Table String Listed) (items : List Value) : Answer (List InputValue) := do
  let read ← items.mapM (inputValue types)
  return Table.values (Table.ofPairs (read.map fun i => (i.name, i)))

def field (types : Table String Listed) (v : Value) : Answer Field := do
  let name ← nameOf (← needed v "name")
  let (type, kind) ← typeRef types (← needed v "type")
  if kind = .input then incomplete "not an output type"
  let fields ← objectOf v
  return { name, type, directives := []
           description := entry fields "description"
           deprecation := entry fields "deprecationReason"
           arguments := ← inputValues types (← neededItems fields "args") }

def fieldsOf (types : Table String Listed) (t : Listed) : Answer (List Field) := do
  let read ← (← neededItems t.fields "fields").mapM (field types)
  return Table.values (Table.ofPairs (read.map fun f => (f.name, f)))

/-- The name of a type that has to be of one kind, neither a list nor required. -/
def nameOfKind (types : Table String Listed) (kind : Kind) (v : Value) : Answer String := do
  match ← typeRef types v with
  | (.named true name, found) =>
    if found = kind then return name else incomplete ("wrong kind of " ++ name)
  | (t, _) => incomplete ("no plain name: " ++ t.text)

def namesOf (types : Table String Listed) (kind : Kind) (items : List Value) :
    Answer (List String) :=
  items.mapM (nameOfKind types kind)

def interfacesOf (types : Table String Listed) (t : Listed) : Answer (List String) := do
  match entry t.fields "interfaces" with
  | .null => if t.kind = .interface then return [] else incomplete "missing interfaces"
  | v => namesOf types .interface (← itemsOf v)

def bodyOf (types : Table String Listed) (t : Listed) : Answer TypeBody := do
  match t.kind with
  | .scalar => return .scalar
  | .object =>
    let fields ← fieldsOf types t
    return .object (← interfacesOf types t) fields
  | .interface =>
    let fields ← fieldsOf types t
    return .interface (← interfacesOf types t) fields
  | .union =>
    return .union (← namesOf types .object (← neededItems t.fields "possibleTypes"))
  | .enum => return .enum t.values
  | .input =>
    return .input (entry t.fields "isOneOf").truthy
      (← inputValues types (← neededItems t.fields "inputFields"))

/-- A fault met while types are put together makes the description incomplete. -/
def settle {α : Type} (r : Answer α) : Answer α :=
  r.mapError fun e => .incomplete e.message

/-- A type of the schema; of the standard types only the scalars are listed. -/
def typeOf? (types : Table String Listed) (t : Listed) : Answer (Option NamedType) := do
  if Sdl.builtinScalars.contains t.name then return some (Schema.builtinScalar t.name)
  if isStandard t.name then return none
  let body ← settle (bodyOf types t)
  return some { name := t.name, directives := [], body,
                description := entry t.fields "description" }

/-! ## The whole description -/

/-- The type of an operation has to be an object. -/
def checkOperation (types : Table String Listed) (v : Value) : Answer Unit := do
  if v.isNull then return
  let _ ← nameOfKind types .object v
  return

/-- The places at which a directive may stand. -/
def checkLocation (v : Value) : Answer Unit :=
  match v with
  | .text s => if Sdl.Read.locations.contains s then .ok () else incomplete "an unknown location"
  | _ => incomplete "an unknown location"

def directive (types : Table String Listed) (v : Value) :
    Answer (String × Note) := do
  let fields ← objectOf v
  if (entry fields "args").isNull || (entry fields "locations").isNull then
    incomplete "missing parts of a directive"
  let name ← needed v "name"
  let places ← neededItems fields "locations"
  let items ← neededItems fields "args"
  let _ ← inputValues types items
  let _ ← places.mapM checkLocation
  return (← nameOf name, entry fields "description")

/-- The schema that a description says. Its own types are always part of it, and with them the scalars
for texts and truth values. -/
def schema (description : Value) : Answer Schema := do
  let .object fields := description | incomplete "not an introspection result"
  let types ← itemsOf (← needed description "types")
  let table := Table.ofPairs (← types.mapM listed)
  for key in ["queryType", "mutationType", "subscriptionType"] do
    checkOperation table (entry fields key)
  let directives ←
    match entry fields "directives" with
    | v => if v.truthy then (← itemsOf v).mapM (directive table) else pure []
  let own := (← (Table.values table).mapM (typeOf? table)).filterMap id
  return { types := ["String", "Boolean"].foldl Schema.addScalar own, directives }

end Introspection

end SchemaTypings
