import SchemaTypings.Code.Error
import SchemaTypings.Code.Names
import SchemaTypings.Import.Ledger
import SchemaTypings.Schema.Basic

/-!
# The scalars of a run

A table with a row for each built-in scalar, each scalar of the schema and each mapped name, in this
order. One rule, `ScalarTable.resolve`, says what stands for a name.
-/

namespace SchemaTypings.Code

open SchemaTypings (Mapper MappingError Note Schema Settings Table Value ImportLedger NamedType)

/-- How the built-in scalars are written if no mapping says otherwise. -/
def builtinTypes : Table String String :=
  [("ID", "string"), ("String", "string"), ("Boolean", "boolean"), ("Int", "number"),
   ("Float", "number")]

structure ScalarTable where
  rows : Table String Mapper
  descriptions : Table String Note

/-- A row as it is written. -/
structure ScalarRow where
  name : String
  type : Value
  description : Note

namespace ScalarTable

/-- What stands for a scalar without a mapping. -/
def unmapped (s : Settings) (name : String) : Mapper :=
  match Table.get? builtinTypes name with
  | some type => Mapper.inline type
  | none => { type := s.defaultScalar, source := none }

/-- What stands for a scalar. A module has all scalars but the built-in ones. -/
def resolve (s : Settings) (name : String) : Except MappingError Mapper :=
  match s.scalars with
  | .module path =>
    match Table.get? builtinTypes name with
    | some type => .ok (Mapper.inline type)
    | none => Mapper.ofValue (.text (path ++ "#" ++ name)) name
  | .table entries =>
    match Table.get? entries name with
    | some v => Mapper.ofValue v name
    | none => .ok (unmapped s name)

/-- The names that have a mapping of their own. -/
def mappedNames (s : Settings) : List String :=
  match s.scalars with
  | .module _ => []
  | .table entries => Table.keys entries

def schemaScalars (schema : Schema) : List NamedType :=
  schema.userTypes.filter NamedType.isScalar

/-- The first scalar that a strict check refuses. -/
def unknownScalar? (schema : Schema) (s : Settings) : Option String :=
  match s.strictScalars, s.scalars with
  | true, .table entries =>
    ((schemaScalars schema).find? fun t =>
      !(t.isBuiltinScalar || Table.has entries t.name)).map NamedType.name
  | _, _ => none

/-- The names whose rows are resolved: the scalars of the schema, then mapped names that it does not
declare. -/
def namesToResolve (schema : Schema) (s : Settings) : List String :=
  let declared := (schemaScalars schema).map NamedType.name
  declared ++ (mappedNames s).filter fun name => !declared.contains name

/-- The rows before any name is resolved. -/
def builtinRows : Table String Mapper :=
  builtinTypes.map fun (name, type) => (name, Mapper.inline type)

def ofSchema (schema : Schema) (s : Settings) : Except EmitError ScalarTable := do
  if let some name := unknownScalar? schema s then throw (.unknownScalar name)
  let resolved ← EmitError.ofMapping <| (namesToResolve schema s).mapM fun name => do
    return (name, ← resolve s name)
  return {
    rows := Table.putAll builtinRows resolved
    descriptions := ((schemaScalars schema).filter fun t => !t.isBuiltinScalar).map fun t =>
      (t.name, t.description) }

/-- Notes the imports behind the rows. -/
def register (t : ScalarTable) (ledger : ImportLedger) : Except MappingError ImportLedger :=
  (Table.values t.rows).foldlM (fun ledger m => ledger.addMapper m) ledger

def list (t : ScalarTable) : List ScalarRow :=
  t.rows.map fun (name, m) =>
    { name, type := m.type, description := (Table.get? t.descriptions name).getD .null }

end ScalarTable

end SchemaTypings.Code
