import SchemaTypings.Code.Error
import SchemaTypings.Code.Literal
import SchemaTypings.Code.TypeExpr
import SchemaTypings.Import.Ledger

/-!
# Enums

Which enums live in another module, under which key and with which value each value of a local enum
is declared, and which keys collide.
-/

namespace SchemaTypings.Code

open SchemaTypings (EnumValue ImportLedger Mapper MappingError Note Settings StoredValue Table Value)

/-! ## Keys -/

/-- A value's name, then the same name with a number from two onwards: one more than are used, so
that one of them is free. -/
def keyCandidates (name : String) (used : Nat) : List String :=
  name :: (List.range used).map fun i => name ++ "_" ++ toString (i + 2)

/-- The first candidate that is not used, in quotes. -/
def uniqueKey (name : String) (used : List String) : String :=
  let free := (keyCandidates name used.length).find? fun c => !used.contains c
  "'" ++ free.getD name ++ "'"

/-- The key of a value once the property names in `used` are taken. -/
def memberKey (s : Settings) (used : List String) (name : String) : String :=
  let key := s.enumKey name
  if used.contains (propertyName key) then uniqueKey name used else key

/-- The keys of values, one after the other. -/
def memberKeys (s : Settings) (used : List String) : List String → List String
  | [] => []
  | name :: rest =>
    let key := memberKey s used name
    key :: memberKeys s (propertyName key :: used) rest

/-- The keys that more than one of the values would like to have. -/
def keyCollisions (s : Settings) (names : List String) : List String :=
  (names.foldl
    (fun (seen, collisions) name =>
      let key := s.enumKey name
      (key :: seen,
        if seen.contains key && !collisions.contains key then collisions ++ [key] else collisions))
    (([] : List String), ([] : List String))).2

/-! ## Members -/

structure EnumMember where
  name : String
  key : String
  value : Value
  description : Note
  deprecation : Note

def EnumMember.literal (m : EnumMember) : String := Code.literal m.value

/-- The value that stands behind a name: an override, else what the schema sets, else its number or
the name itself. -/
def memberValue (s : Settings) (overrides : Table String Value) (index : Nat) (v : EnumValue) :
    Value :=
  match Table.get? overrides v.name with
  | some value => value
  | none =>
    match v.stored.setValue? v.name with
    | some value => value
    | none => if s.enumForm = .numbered then .int index else .text v.name

end SchemaTypings.Code

namespace SchemaTypings.Settings

open SchemaTypings.Code

/-- What is configured for the values of an enum. -/
def enumOverrides (s : Settings) (enum : String) : Table String Value :=
  match s.enumValues with
  | .module _ => []
  | .table entries =>
    match Table.get? entries enum with
    | some (.object fields) => if Mapper.pointsOutside (.object fields) then [] else fields
    | _ => []

/-- The symbol behind an enum that lives in another module. -/
def externalEnum? (s : Settings) (enum : String) : Except MappingError (Option Mapper) :=
  match s.enumValues with
  | .module path => (Mapper.ofValue (.text (path ++ "#" ++ enum)) enum).map some
  | .table entries =>
    match Table.get? entries enum with
    | some v => if Mapper.pointsOutside v then (Mapper.ofValue v enum).map some else .ok none
    | none => .ok none

def enumMembers (s : Settings) (enum : String) (values : List EnumValue) : List EnumMember :=
  let overrides := s.enumOverrides enum
  (values.zip (memberKeys s [] (values.map EnumValue.name))).zipIdx.map fun ((v, key), index) =>
    { name := v.name, key, value := memberValue s overrides index v,
      description := v.description, deprecation := v.deprecation }

/-- The identifier of an enum: its own name if it lives elsewhere. -/
def enumIdentifier (s : Settings) (enum : String) : Except MappingError String := do
  return if (← s.externalEnum? enum).isSome then enum else s.enumName enum

end SchemaTypings.Settings

namespace SchemaTypings.ImportLedger

/-- Notes an enum of another module: its symbol, which is a value and not only a type, the alias that
gives it its own name, and that it is passed on. -/
def addEnum (ledger : ImportLedger) (s : Settings) (enum : String) :
    Except MappingError ImportLedger := do
  match ← s.externalEnum? enum with
  | some { type, source := some source } =>
    let (_, ledger) ← ledger.add source.module source.boundAs source.imported false
      (some (.bool false))
    let renamed : Bool :=
      match source.boundAs with
      | .text bound => bound != enum
      | _ => true
    let ledger := if renamed then ledger.addAssignment enum type else ledger
    return if s.noExport then ledger else ledger.addReexport enum
  | _ => return ledger

end SchemaTypings.ImportLedger
