import SchemaTypings.Name.Style
import SchemaTypings.Value.Text

/-!
# Options

The options that a run understands, the spellings under which a configuration may name them, and a
value for each. An option that nobody sets has its default.
-/

namespace SchemaTypings

/-- An option, in the order in which a configuration lists them. -/
inductive OptionName where
  | outputFile
  | namingConvention
  | typesPrefix
  | typesSuffix
  | enumPrefix
  | addUnderscoreToArgsType
  | scalars
  | defaultScalarType
  | strictScalars
  | enumValues
  | enumsAsConst
  | enumsAsTypes
  | numericEnums
  | constEnums
  | futureProofEnums
  | allowEnumStringTypes
  | futureProofUnions
  | useImplementingTypes
  | declarationKind
  | immutableTypes
  | skipTypename
  | nonOptionalTypename
  | noExport
  | disableDescriptions
  | useTypeImports
  | avoidOptionals
  | maybeValue
  | inputMaybeValue
  | wrapFieldDefinitions
  | fieldWrapperValue
  | wrapEntireFieldDefinitions
  | entireFieldWrapperValue
  | directiveMappings
  | directiveMappingSuffix
  deriving DecidableEq, Repr

namespace OptionName

def all : List OptionName :=
  [outputFile, namingConvention, typesPrefix, typesSuffix, enumPrefix, addUnderscoreToArgsType,
   scalars, defaultScalarType, strictScalars, enumValues, enumsAsConst, enumsAsTypes, numericEnums,
   constEnums, futureProofEnums, allowEnumStringTypes, futureProofUnions, useImplementingTypes,
   declarationKind, immutableTypes, skipTypename, nonOptionalTypename, noExport,
   disableDescriptions, useTypeImports, avoidOptionals, maybeValue, inputMaybeValue,
   wrapFieldDefinitions, fieldWrapperValue, wrapEntireFieldDefinitions, entireFieldWrapperValue,
   directiveMappings, directiveMappingSuffix]

/-- The key of an option in a configuration. -/
def key : OptionName → String
  | outputFile => "output_file"
  | namingConvention => "naming_convention"
  | typesPrefix => "types_prefix"
  | typesSuffix => "types_suffix"
  | enumPrefix => "enum_prefix"
  | addUnderscoreToArgsType => "add_underscore_to_args_type"
  | scalars => "scalars"
  | defaultScalarType => "default_scalar_type"
  | strictScalars => "strict_scalars"
  | enumValues => "enum_values"
  | enumsAsConst => "enums_as_const"
  | enumsAsTypes => "enums_as_types"
  | numericEnums => "numeric_enums"
  | constEnums => "const_enums"
  | futureProofEnums => "future_proof_enums"
  | allowEnumStringTypes => "allow_enum_string_types"
  | futureProofUnions => "future_proof_unions"
  | useImplementingTypes => "use_implementing_types"
  | declarationKind => "declaration_kind"
  | immutableTypes => "immutable_types"
  | skipTypename => "skip_typename"
  | nonOptionalTypename => "non_optional_typename"
  | noExport => "no_export"
  | disableDescriptions => "disable_descriptions"
  | useTypeImports => "use_type_imports"
  | avoidOptionals => "avoid_optionals"
  | maybeValue => "maybe_value"
  | inputMaybeValue => "input_maybe_value"
  | wrapFieldDefinitions => "wrap_field_definitions"
  | fieldWrapperValue => "field_wrapper_value"
  | wrapEntireFieldDefinitions => "wrap_entire_field_definitions"
  | entireFieldWrapperValue => "entire_field_wrapper_value"
  | directiveMappings => "directive_argument_and_input_field_mappings"
  | directiveMappingSuffix => "directive_argument_and_input_field_mapping_type_suffix"

def ofKey? (k : String) : Option OptionName := all.find? fun o => o.key = k

/-- The value of an option that is not set. -/
def default : OptionName → Value
  | outputFile => .null
  | namingConvention => .text "pascalCase"
  | typesPrefix | typesSuffix | directiveMappingSuffix => .text ""
  | enumPrefix => .bool true
  | scalars | enumValues | directiveMappings => .object []
  | defaultScalarType => .text "any"
  | declarationKind => .text "type"
  | maybeValue => .text "T | null"
  | inputMaybeValue => .text "Maybe<T>"
  | fieldWrapperValue | entireFieldWrapperValue => .text "T"
  | addUnderscoreToArgsType | strictScalars | enumsAsConst | enumsAsTypes | numericEnums
  | constEnums | futureProofEnums | allowEnumStringTypes | futureProofUnions
  | useImplementingTypes | immutableTypes | skipTypename | nonOptionalTypename | noExport
  | disableDescriptions | useTypeImports | avoidOptionals | wrapFieldDefinitions
  | wrapEntireFieldDefinitions => .bool false

theorem mem_all (o : OptionName) : o ∈ all := by cases o <;> decide

theorem ofKey?_key (o : OptionName) : ofKey? o.key = some o := by cases o <;> rfl

theorem key_injective (o p : OptionName) (h : o.key = p.key) : o = p :=
  Option.some.inj (by rw [← ofKey?_key o, h, ofKey?_key p])

end OptionName

/-! ## Keys -/

/-- The spelling under which an option key is looked up. -/
def optionKey (key : String) : String := NameStyle.snake.apply key

/-- Keys that are spelled differently but mean one option write to the same place. -/
def normalizeKeys (pairs : List (String × Value)) : Table String Value :=
  Table.ofPairs (pairs.map fun p => (optionKey p.1, p.2))

/-- A value for each option. -/
abbrev Options := OptionName → Value

namespace Options

def defaults : Options := OptionName.default

/-- The options that a table with normalized keys sets. -/
def ofTable (t : Table String Value) : Options := fun o => (Table.get? t o.key).getD o.default

def toPairs (o : Options) (names : List OptionName) : List (String × Value) :=
  names.map fun name => (name.key, o name)

end Options

end SchemaTypings
