import SchemaTypings.Config.Error
import SchemaTypings.Config.Options

/-!
# Settings

What the options of a run say, read once: truth values where only truth counts, texts where the text
is written, and the compound options taken apart. Options that contradict each other or have the
wrong shape give no settings.
-/

namespace SchemaTypings

/-- The word that opens a declaration. -/
inductive DeclarationKeyword where
  | typeAlias
  | interfaceType
  | classType
  deriving DecidableEq, Repr, Inhabited

namespace DeclarationKeyword

def word : DeclarationKeyword → String
  | typeAlias => "type"
  | interfaceType => "interface"
  | classType => "class"

def all : List DeclarationKeyword := [typeAlias, interfaceType, classType]

def ofValue? : Value → Option DeclarationKeyword
  | .text s => all.find? fun k => k.word = s
  | _ => none

end DeclarationKeyword

/-- The keyword for each category of declaration. -/
structure DeclarationKinds where
  object : DeclarationKeyword := .typeAlias
  input : DeclarationKeyword := .typeAlias
  interface : DeclarationKeyword := .typeAlias
  arguments : DeclarationKeyword := .typeAlias
  deriving DecidableEq, Repr

structure NamingConvention where
  typeNames : NameStyle := .pascal
  enumValues : NameStyle := .pascal
  dropUnderscores : Bool := false
  deriving DecidableEq, Repr

/-- The positions in which an attribute stays required although its value may be missing. -/
structure AvoidOptionals where
  field : Bool := false
  inputValue : Bool := false
  defaultValue : Bool := false
  deriving DecidableEq, Repr

/-- How a local enum is declared. -/
inductive EnumForm where
  | plain
  | stringUnion
  | constObject
  | numbered
  | constEnum
  deriving DecidableEq, Repr, Inhabited

/-- Where mapped names come from: one module for all of them, or a mapping of their own each. -/
inductive MappingSource where
  | module (path : String)
  | table (entries : List (String × Value))

structure Settings where
  naming : NamingConvention
  typesPrefix : String
  typesSuffix : String
  enumPrefix : Bool
  underscoreBeforeArgs : Bool
  scalars : MappingSource
  defaultScalar : Value
  strictScalars : Bool
  enumValues : MappingSource
  enumForm : EnumForm
  futureProofEnums : Bool
  enumStringTypes : Bool
  futureProofUnions : Bool
  implementingTypes : Bool
  kinds : DeclarationKinds
  immutable : Bool
  skipTypename : Bool
  requiredTypename : Bool
  noExport : Bool
  noDescriptions : Bool
  typeImports : Value
  avoid : AvoidOptionals
  maybe : String
  inputMaybe : String
  wrapFields : Bool
  fieldWrapper : String
  wrapEntireFields : Bool
  entireFieldWrapper : String
  directiveMappings : List (String × Value)
  mappingSuffix : String

/-! ## Reading the compound options -/

/-- The entries of a compound option under normalized keys. -/
def recordOf (option : String) : Value → Except ConfigError (Table String Value)
  | .object fields => .ok (normalizeKeys fields)
  | _ => .error (.recordShape option)

/-- Puts a value into text; a number that is too long is a fault of the configuration. -/
def checkWords (tooLong : ConfigError) (v : Value) (levels : Option Nat) :
    Except ConfigError Unit :=
  (v.checkText levels).mapError fun
    | .digits => tooLong
    | .levels => .limit (.text .levels)

def NameStyle.ofValue (v : Value) (room : Room := .ample) : Except ConfigError NameStyle :=
  match v with
  | .null => .ok .pascal
  | v => do
    checkWords .longStyle v room.style
    match NameStyle.ofText? v.display with
    | some style => return style
    | none =>
      checkWords .longStyle v room.unknownStyle
      throw (.unknownNaming v)

def NamingConvention.ofValue (v : Value) (room : Room := .ample) :
    Except ConfigError NamingConvention :=
  match v with
  | .null => .ok {}
  | .text s => do
    let style ← NameStyle.ofValue (.text s) room
    return { typeNames := style, enumValues := style }
  | v => do
    let record ← recordOf "naming_convention" v
    let typeNames ← NameStyle.ofValue ((Table.get? record "type_names").getD .null) room
    let enumValues ← NameStyle.ofValue ((Table.get? record "enum_values").getD .null) room
    let drop := ((Table.get? record "transform_underscore").getD (.bool false)).truthy
    return { typeNames, enumValues, dropUnderscores := drop }

/-- Reads the keyword of a category; every category is checked, known or not. -/
def keywordOf (category : String) (v : Value) (room : Room := .ample) :
    Except ConfigError DeclarationKeyword :=
  match DeclarationKeyword.ofValue? v with
  | some keyword => .ok keyword
  | none => do
    checkWords .longKind v room.unknownKind
    throw (.unknownKind category v)

def DeclarationKinds.ofValue (v : Value) (room : Room := .ample) :
    Except ConfigError DeclarationKinds :=
  match v with
  | .null => .ok {}
  | .text s => do
    let keyword ← keywordOf "type" (.text s) room
    return { object := keyword, input := keyword, interface := keyword, arguments := keyword }
  | v => do
    let record ← recordOf "declaration_kind" v
    let kinds ← record.mapM fun (category, kind) => do
      let keyword ← keywordOf category kind room
      return (category, keyword)
    let kindOf (category : String) : DeclarationKeyword :=
      (Table.get? kinds category).getD .typeAlias
    return { object := kindOf "type", input := kindOf "input", interface := kindOf "interface",
             arguments := kindOf "arguments" }

/-- The blanket form keeps attributes with a default optional. -/
def AvoidOptionals.ofValue (v : Value) : Except ConfigError AvoidOptionals :=
  match v with
  | .null | .bool false => .ok {}
  | .bool true => .ok { field := true, inputValue := true }
  | v => do
    let record ← recordOf "avoid_optionals" v
    let truth (key : String) : Bool := ((Table.get? record key).getD (.bool false)).truthy
    return { field := truth "field", inputValue := truth "input_value",
             defaultValue := truth "default_value" }

/-- The enum forms that options ask for, in the order in which messages list them. -/
def enumForms : List (OptionName × EnumForm) :=
  [(.enumsAsTypes, .stringUnion), (.enumsAsConst, .constObject), (.numericEnums, .numbered),
   (.constEnums, .constEnum)]

def EnumForm.ofOptions (o : Options) : Except ConfigError EnumForm :=
  match enumForms.filter fun (name, _) => (o name).truthy with
  | [] => .ok .plain
  | [(_, form)] => .ok form
  | several => .error (.exclusive (several.map (·.1.key)))

def MappingSource.ofValue (shape : ConfigError) : Value → Except ConfigError MappingSource
  | .text path => .ok (.module path)
  | .object entries => .ok (.table entries)
  | _ => .error shape

/-! ## All settings -/

def Settings.ofOptions (o : Options) (room : Room := .ample) : Except ConfigError Settings := do
  let enumForm ← EnumForm.ofOptions o
  let scalars ← MappingSource.ofValue .scalarsShape (o .scalars)
  let enumValues ← MappingSource.ofValue .enumValuesShape (o .enumValues)
  let directiveMappings ←
    match o .directiveMappings with
    | .object entries => pure entries
    | _ => throw ConfigError.directiveMappingsShape
  let naming ← NamingConvention.ofValue (o .namingConvention) room
  let kinds ← DeclarationKinds.ofValue (o .declarationKind) room
  let avoid ← AvoidOptionals.ofValue (o .avoidOptionals)
  let truth (name : OptionName) : Bool := (o name).truthy
  let text (name : OptionName) : String := (o name).display
  return {
    naming, scalars, enumValues, enumForm, kinds, avoid, directiveMappings
    typesPrefix := text .typesPrefix
    typesSuffix := text .typesSuffix
    enumPrefix := truth .enumPrefix
    underscoreBeforeArgs := truth .addUnderscoreToArgsType
    defaultScalar := o .defaultScalarType
    strictScalars := truth .strictScalars
    futureProofEnums := truth .futureProofEnums
    enumStringTypes := truth .allowEnumStringTypes
    futureProofUnions := truth .futureProofUnions
    implementingTypes := truth .useImplementingTypes
    immutable := truth .immutableTypes
    skipTypename := truth .skipTypename
    requiredTypename := truth .nonOptionalTypename
    noExport := truth .noExport
    noDescriptions := truth .disableDescriptions
    typeImports := o .useTypeImports
    maybe := text .maybeValue
    inputMaybe := text .inputMaybeValue
    wrapFields := truth .wrapFieldDefinitions
    fieldWrapper := text .fieldWrapperValue
    wrapEntireFields := truth .wrapEntireFieldDefinitions
    entireFieldWrapper := text .entireFieldWrapperValue
    mappingSuffix :=
      if truth .directiveMappingSuffix then text .directiveMappingSuffix else "" }

/-- What stands before an exported declaration. -/
def Settings.exportPrefix (s : Settings) : String := if s.noExport then "" else "export "

end SchemaTypings
