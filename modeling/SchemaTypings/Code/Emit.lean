import SchemaTypings.Code.Declaration
import SchemaTypings.Code.Output

/-!
# A run

From a schema and settings to code. What the declarations refer to is settled first: the scalars,
the types mapped to directives and the enums of other modules, all with their imports. Then each type
gives its declarations, in the order of the schema.
-/

namespace SchemaTypings.Code

open SchemaTypings

/-! ## What a run refers to -/

/-- A schema under settings, with the types that are mapped to directives. -/
structure Scope where
  schema : Schema
  settings : Settings
  mapped : Table String Value
  room : Room := .ample

namespace Scope

def mapError {α : Type} (r : Except MappingError α) : Except EmitError α := EmitError.ofMapping r

/-- What a named type is referred to as. -/
def reference (c : Scope) (name : String) : Except EmitError Reference :=
  match (c.schema.find? name).map NamedType.body with
  | some .scalar => .ok (.scalar name)
  | some (.enum _) =>
    mapError ((c.settings.enumIdentifier name).map c.settings.enumReference)
  | _ => .ok (.declared (c.settings.typeName name))

/-- What a named type is referred to as where a value of it is read. -/
def outputReference (c : Scope) (name : String) : Except EmitError Reference :=
  match c.settings.implementingTypes, c.schema.find? name with
  | true, some t =>
    match t.body with
    | .interface .. | .union _ =>
      .ok (.anyOf ((c.schema.possibleTypes t).map c.settings.typeName))
    | _ => c.reference name
  | _, _ => c.reference name

/-- The last mapped directive of a definition takes the place of its type. -/
def override? (c : Scope) (directives : List String) : Option Reference :=
  ((directives.filter fun d => Table.has c.mapped d).getLast?).map .directive

/-! ## Comments -/

def comment (c : Scope) (description deprecation : Note) : Except EmitError (Option String) :=
  note? description deprecation (!c.settings.noDescriptions)

/-- What is left of a description where descriptions may be left out. -/
def described (c : Scope) (description : Note) : Note :=
  if c.settings.noDescriptions then .null else description

def typeComment (c : Scope) (description : Note) : Option String :=
  Note.said? (c.described description)

/-! ## Members -/

def outputMember (c : Scope) (f : Field) : Except EmitError Attribute := do
  let core ← c.outputReference f.type.name
  return { name := f.name, type := c.settings.outputAttribute f.type core,
           comment := ← c.comment f.description f.deprecation }

def inputMember (c : Scope) (i : InputValue) : Except EmitError Attribute := do
  let override := c.override? i.directives
  let core ←
    match override with
    | some o => pure o
    | none => c.reference i.type.name
  return { name := i.name, type := c.settings.inputAttribute i.type i.hasDefault override core,
           comment := ← c.comment i.description i.deprecation }

/-- The type of a field that has to be given. -/
def requiredType (c : Scope) (i : InputValue) : Except EmitError (TypeExpr Reference) :=
  match c.override? i.directives with
  | some o => .ok { wrappers := [], core := o }
  | none => (c.reference i.type.name).map (c.settings.requiredInputExpr i.type)

/-- The variant in which one field is given and all others are not. -/
def variant (c : Scope) (input : String) (fields : List InputValue) (given : InputValue) :
    Except EmitError Variant := do
  if !given.type.nullable then throw (.oneOfField input given.name)
  let type ← c.requiredType given
  return fields.map fun f =>
    { name := f.name, type := if f.name = given.name then some type else none }

def typename (c : Scope) (name : String) : Option Typename :=
  if c.settings.skipTypename then none
  else some { name, isOptional := !c.settings.requiredTypename, isReadonly := c.settings.immutable }

/-! ## Declarations -/

def declare (c : Scope) (identifier : String) (comment : Option String) (body : DeclarationBody) :
    Declaration :=
  { identifier, comment, exported := !c.settings.noExport, body }

def argumentBag (c : Scope) (owner : String) (f : Field) : Except EmitError Declaration := do
  let members ← f.arguments.mapM c.inputMember
  return c.declare (c.settings.argsName owner f.name) none
    (.arguments c.settings.kinds.arguments members)

/-- One declaration for each field that has arguments. -/
def argumentBags (c : Scope) (owner : String) (fields : List Field) :
    Except EmitError (List Declaration) :=
  (fields.filter fun f => !f.arguments.isEmpty).mapM (c.argumentBag owner)

/-- The literal of a value is written before its comment. -/
def enumLine (c : Scope) (m : EnumMember) : Except EmitError EnumLine := do
  (m.value.checkText c.room.literal).mapError EmitError.unwritable
  return { member := m, comment := ← c.comment m.description m.deprecation }

def localEnum (c : Scope) (t : NamedType) (values : List EnumValue) :
    Except EmitError Declaration := do
  let lines ← (c.settings.enumMembers t.name values).mapM c.enumLine
  return c.declare (c.settings.enumName t.name) (c.typeComment t.description)
    (.enum c.settings.enumForm c.settings.futureProofEnums lines)

/-- The declarations of a type: none for a scalar or an enum of another module. -/
def declarationsFor (c : Scope) (t : NamedType) : Except EmitError (List Declaration) := do
  let declare (body : DeclarationBody) : Declaration :=
    c.declare (c.settings.typeName t.name) (c.typeComment t.description) body
  match t.body with
  | .scalar => return []
  | .enum values =>
    if (← mapError (c.settings.externalEnum? t.name)).isSome then return []
    return [← c.localEnum t (← values.mapError EmitError.values)]
  | .object interfaces fields =>
    let members ← fields.mapM c.outputMember
    let bases := interfaces.map c.settings.typeName
    let body := .object c.settings.kinds.object bases (c.typename t.name) members
    return declare body :: (← c.argumentBags t.name fields)
  | .interface interfaces fields =>
    let members ← fields.mapM c.outputMember
    let bases := interfaces.map c.settings.typeName
    let body := .interface c.settings.kinds.interface bases members
    return declare body :: (← c.argumentBags t.name fields)
  | .union members =>
    let members ← members.mapM c.reference
    let openReadonly := if c.settings.futureProofUnions then some c.settings.immutable else none
    return [declare (.union members openReadonly)]
  | .input _ fields =>
    if t.isOneOf then
      let variants ← fields.mapM (c.variant t.name fields)
      return [declare (.oneOf c.settings.immutable variants)]
    else
      return [declare (.input c.settings.kinds.input (← fields.mapM c.inputMember))]

def scalarsComment : String := "All built-in and custom scalars, mapped to their actual values"

def mappingsComment : String := "Type overrides using directives"

/-- A row without its description where descriptions are left out. -/
def describe (c : Scope) (r : ScalarRow) : ScalarRow :=
  { r with description := c.described r.description }

def scalarsDeclaration (c : Scope) (t : ScalarTable) : Declaration :=
  c.declare scalarsName (c.typeComment (.text scalarsComment)) (.scalars (t.list.map c.describe))

def mappingsDeclaration (c : Scope) : Declaration :=
  let row : String × Value → ScalarRow := fun (name, type) =>
    c.describe { name, type, description := (c.schema.directive? name).getD .null }
  c.declare directiveMappingsName (c.typeComment (.text mappingsComment))
    (.directiveMappings (c.mapped.map row))

end Scope

/-! ## The prelude -/

/-- The aliases that wrappers are written with. -/
def preludeLines (s : Settings) : List String :=
  let line (text : String) : String := s.exportPrefix ++ text
  [ line ("type Maybe<T> = " ++ s.maybe ++ ";"),
    line ("type InputMaybe<T> = " ++ s.inputMaybe ++ ";"),
    line ("type Exact<T extends \x7b [key: string]: unknown \x7d> = " ++
      "\x7b [K in keyof T]: T[K] \x7d;"),
    line ("type MakeOptional<T, K extends keyof T> = " ++
      "Omit<T, K> & \x7b [SubKey in K]?: Maybe<T[SubKey]> \x7d;"),
    line ("type MakeMaybe<T, K extends keyof T> = " ++
      "Omit<T, K> & \x7b [SubKey in K]: Maybe<T[SubKey]> \x7d;") ] ++
  (if s.wrapFields then [line ("type FieldWrapper<T> = " ++ s.fieldWrapper ++ ";")] else []) ++
  (if s.wrapEntireFields then
    [line ("type EntireFieldWrapper<T> = " ++ s.entireFieldWrapper ++ ";")]
  else [])

/-! ## The whole run -/

/-- What a run has settled before it is written. -/
structure Emission where
  prelude : List String
  ledger : ImportLedger
  declarations : List Declaration

namespace Emission

/-- Reads one mapped directive and notes its import. -/
def mapDirective (s : Settings) (state : Table String Value × ImportLedger)
    (entry : String × Value) : Except MappingError (Table String Value × ImportLedger) := do
  let m ← Mapper.ofValue entry.2 entry.1 s.mappingSuffix
  return (Table.put state.1 entry.1 m.type, ← state.2.addMapper m)

def isEnum (t : NamedType) : Bool :=
  match t.body with
  | .enum _ => true
  | _ => false

/-- The imports of a run: those of scalars, then of mapped directives, then of enums. -/
def gather (schema : Schema) (s : Settings) (scalars : ScalarTable) :
    Except MappingError (Table String Value × ImportLedger) := do
  let ledger ← scalars.register { typeImports := s.typeImports }
  let (mapped, ledger) ← s.directiveMappings.foldlM (mapDirective s) ([], ledger)
  let enums := schema.userTypes.filter isEnum
  return (mapped, ← enums.foldlM (fun ledger t => ledger.addEnum s t.name) ledger)

def ofSchema (schema : Schema) (s : Settings) (room : Room := .ample) :
    Except EmitError Emission := do
  let scalars ← ScalarTable.ofSchema schema s
  let (mapped, ledger) ← EmitError.ofMapping (gather schema s scalars)
  let scope : Scope := { schema, settings := s, mapped, room }
  let mappings := if mapped.isEmpty then [] else [scope.mappingsDeclaration]
  let ofTypes ← schema.userTypes.mapM scope.declarationsFor
  return { prelude := preludeLines s, ledger,
           declarations := scope.scalarsDeclaration scalars :: mappings ++ ofTypes.flatten }

/-- Imports, assignments and the prelude go before the blocks, re-exports after them. -/
def output (e : Emission) : Except EmitError Output := do
  let content := e.declarations.map Declaration.render ++ e.ledger.reexportLines
  let imports ← EmitError.ofMapping e.ledger.importLines
  return { prepend := imports ++ e.ledger.assignmentLines ++ e.prelude, content }

end Emission

/-- The code for a schema under settings. -/
def emit (schema : Schema) (s : Settings) (room : Room := .ample) : Except EmitError Output := do
  (← Emission.ofSchema schema s room).output

end SchemaTypings.Code
