import SchemaTypings.Text.Blank
import SchemaTypings.Value.Text

/-!
# Mapped names

A mapping says what stands for a name of the schema: an expression written in place, or a symbol
imported from a module. Both the text form `module#Symbol as Alias` and the object form are read.
-/

namespace SchemaTypings

/-- What can be wrong with a mapping. -/
inductive MappingError where
  | moduleMissing
  | symbolNotText (symbol : Value)
  | notAKey (v : Value)

def MappingError.message : MappingError → String
  | moduleMissing => "a mapping object names no module"
  | symbolNotText symbol => "the symbol of a mapping is no text: " ++ symbol.display
  | notAKey v => "a list or an object cannot name a module: " ++ v.display

/-- A symbol of a module and the name that it gets; without `imported` it is the default export. -/
structure ImportSource where
  module : Value
  imported : Option String
  boundAs : Value

/-- The expression that stands for a mapped name, and where its symbol comes from if not here. -/
structure Mapper where
  type : Value
  source : Option ImportSource

namespace Mapper

def inline (expression : String) : Mapper := { type := .text expression, source := none }

def isExternal (m : Mapper) : Bool := m.source.isSome

def isDefault (m : Mapper) : Bool := m.source.any fun s => s.imported.isNone

/-- The default export of a module, bound to a name. -/
def ofDefault (module boundAs : Value) : Mapper :=
  { type := boundAs, source := some { module, imported := none, boundAs } }

/-- A symbol and its alias, around the first ` as `; without one the alias is empty. -/
def splitAlias (identifier : List Char) : List Char × List Char :=
  match Text.cutFirst [' ', 'a', 's', ' '] identifier with
  | some (symbol, given) => (Text.trim symbol, Text.trim given)
  | none => (Text.trim identifier, [])

/-- What an identifier of a module stands for. A dotted symbol imports its first part and keeps its
dotted text as expression; a suffix makes an alias for a symbol that has none. -/
def ofIdentifier (module : Value) (identifier : List Char) (typeName suffix : String) : Mapper :=
  let (symbol, given) := splitAlias identifier
  let imported := String.ofList symbol
  if symbol = "default".toList then
    ofDefault module (.text (if given.isEmpty then typeName else String.ofList given))
  else if symbol.contains '.' then
    let space := String.ofList (symbol.takeWhile (· ≠ '.'))
    { type := .text imported,
      source := some { module, imported := some space, boundAs := .text space } }
  else
    let bound :=
      if !given.isEmpty then String.ofList given
      else if suffix.isEmpty then imported
      else imported ++ suffix
    { type := .text bound,
      source := some { module, imported := some imported, boundAs := .text bound } }

/-- Whether a mapping points at another module. -/
def pointsOutside : Value → Bool
  | .object fields => Table.has fields "module"
  | .text s => s.toList.contains '#'
  | _ => false

/-- The object form: `module` with `default`, or with `symbol`; either may have an `alias`. -/
def ofObject (fields : Table String Value) (typeName suffix : String) :
    Except MappingError Mapper := do
  let entry (key : String) : Value := (Table.get? fields key).getD .null
  let some module := Table.get? fields "module" | throw .moduleMissing
  if (entry "default").truthy then
    return ofDefault module ((entry "alias").orElse (.text typeName))
  let symbol := (entry "symbol").orElse (.text typeName)
  if (entry "alias").truthy then
    let identifier := symbol.display ++ " as " ++ (entry "alias").display
    return ofIdentifier module identifier.toList typeName suffix
  match symbol with
  | .text identifier => return ofIdentifier module identifier.toList typeName suffix
  | symbol => throw (.symbolNotText symbol)

/-- Reads a mapping. A text without `#` and every other value is an expression. -/
def ofValue (v : Value) (typeName : String) (suffix : String := "") :
    Except MappingError Mapper :=
  match v with
  | .object fields => ofObject fields typeName suffix
  | .text s =>
    match Text.cutLast '#' s.toList with
    | some (module, identifier) =>
      .ok (ofIdentifier (.text (String.ofList module)) (Text.trim identifier) typeName suffix)
    | none => .ok (inline s)
  | v => .ok (inline v.display)

end Mapper

end SchemaTypings
