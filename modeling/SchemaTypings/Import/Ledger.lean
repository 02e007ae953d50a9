import SchemaTypings.Import.Mapper

/-!
# The imports of a run

A ledger holds one record for each symbol of each module, in the order in which the symbols were
first asked for, and writes them as statements grouped by module.
-/

namespace SchemaTypings

/-- One imported symbol; without `imported` it is the default export. -/
structure ImportRecord where
  module : Value
  boundAs : Value
  imported : Option String
  reexport : Bool
  typeOnly : Value

/-- The name of the symbol in its module; an empty name counts as the default export. -/
def ImportRecord.symbol (r : ImportRecord) : String :=
  match r.imported with
  | none => "default"
  | some name => if name.isEmpty then "default" else name

structure ImportLedger where
  /-- What a record says about being for types only if the caller says nothing. -/
  typeImports : Value
  records : Table (Value.Key × String) ImportRecord := []
  assignments : Table String Value := []
  reexports : List String := []

namespace ImportLedger

def keyOf (v : Value) : Except MappingError Value.Key :=
  match v.key? with
  | some k => .ok k
  | none => .error (.notAKey v)

/-- Joins a new record with an older one for the same symbol: the new binding counts, a re-export
stays one, and only what was always for types stays for types. -/
def join (record older : ImportRecord) : ImportRecord :=
  { record with
    reexport := record.reexport || older.reexport
    typeOnly := if record.typeOnly.truthy then older.typeOnly else record.typeOnly }

/-- Notes an imported symbol. -/
def add (ledger : ImportLedger) (module boundAs : Value) (imported : Option String)
    (reexport : Bool := false) (typeOnly : Option Value := none) :
    Except MappingError (ImportRecord × ImportLedger) := do
  let record : ImportRecord :=
    { module, boundAs, imported, reexport, typeOnly := typeOnly.getD ledger.typeImports }
  let key := (← keyOf module, record.symbol)
  let record :=
    match Table.get? ledger.records key with
    | some older => join record older
    | none => record
  return (record, { ledger with records := Table.put ledger.records key record })

/-- Notes the symbol behind a mapping, if it has one. -/
def addMapper (ledger : ImportLedger) (m : Mapper) (typeOnly : Option Value := none) :
    Except MappingError ImportLedger :=
  match m.source with
  | none => .ok ledger
  | some source =>
    (ledger.add source.module source.boundAs source.imported false typeOnly).map (·.2)

/-- Notes a name that stands for another expression. -/
def addAssignment (ledger : ImportLedger) (name : String) (target : Value) : ImportLedger :=
  { ledger with assignments := Table.put ledger.assignments name target }

/-- Notes a binding that is passed on, once. -/
def addReexport (ledger : ImportLedger) (name : String) : ImportLedger :=
  if ledger.reexports.contains name then ledger
  else { ledger with reexports := ledger.reexports ++ [name] }

/-! ## Statements -/

/-- The records of one statement group: a module, and whether for types only. -/
structure Group where
  module : Value
  typeOnly : Value
  records : List ImportRecord

/-- An import statement before it is written. -/
structure Statement where
  module : Value
  typeOnly : Bool
  default : Option Value
  named : List (String × Value)

/-- Puts each record into the group of its module and kind, in order of first use. -/
def group (records : List ImportRecord) :
    Except MappingError (Table (Value.Key × Value.Key) Group) :=
  records.foldlM (fun groups r => do
    let key := (← keyOf r.module, ← keyOf r.typeOnly)
    let old := (Table.get? groups key).getD ⟨r.module, r.typeOnly, []⟩
    return Table.put groups key { old with records := old.records ++ [r] }) []

/-- One statement for a group, or two where a default and named symbols cannot share one. -/
def Group.statements (g : Group) : List Statement :=
  let defaults := g.records.filter (·.imported.isNone)
  let named := g.records.filterMap fun r => r.imported.map fun name => (name, r.boundAs)
  let base : Statement :=
    { module := g.module, typeOnly := g.typeOnly.truthy, default := none, named := [] }
  match defaults, named with
  | [], [] => []
  | [], named => [{ base with named }]
  | first :: _, [] => [{ base with default := some first.boundAs }]
  | first :: _, named =>
    if g.typeOnly.truthy then [{ base with default := some first.boundAs }, { base with named }]
    else [{ base with default := some first.boundAs, named }]

def bindingText (imported : String) (boundAs : Value) : String :=
  match boundAs with
  | .text name => if imported = name then imported else imported ++ " as " ++ name
  | v => imported ++ " as " ++ v.display

def Statement.render (s : Statement) : String :=
  let named := "\x7b " ++ ", ".intercalate (s.named.map fun (i, b) => bindingText i b) ++ " \x7d"
  let bindings :=
    match s.default, s.named with
    | some name, [] => name.display
    | some name, _ => name.display ++ ", " ++ named
    | none, _ => named
  (if s.typeOnly then "import type " else "import ") ++ bindings ++ " from '" ++ s.module.display ++
    "';"

def statements (ledger : ImportLedger) : Except MappingError (List Statement) := do
  return (Table.values (← group (Table.values ledger.records))).flatMap Group.statements

def importLines (ledger : ImportLedger) : Except MappingError (List String) := do
  return (← ledger.statements).map Statement.render

def assignmentLines (ledger : ImportLedger) : List String :=
  ledger.assignments.map fun (name, target) => "import " ++ name ++ " = " ++ target.display ++ ";"

def reexportLine (name : String) : String := "export \x7b " ++ name ++ " \x7d;"

def reexportLines (ledger : ImportLedger) : List String := ledger.reexports.map reexportLine

end ImportLedger

end SchemaTypings
