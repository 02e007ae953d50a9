import SchemaTypings.Folder.Limit
import SchemaTypings.Value.Text

/-!
# What can be wrong with a configuration
-/

namespace SchemaTypings

inductive ConfigError where
  | notMapping (given : Value)
  | exclusive (options : List String)
  | scalarsShape
  | enumValuesShape
  | directiveMappingsShape
  | unknownNaming (given : Value)
  /-- A style is given by a number that is too long. -/
  | longStyle
  | recordShape (option : String)
  | unknownKind (category : String) (given : Value)
  /-- A kind of declarations is given by a number that is too long. -/
  | longKind
  | unknownLanguage (language : String)
  | overridesShape (given : Value)
  | fileMissing (path : String)
  | fileNotJson (path : String)
  | fileMalformed (path reason : String)
  | fileUnreadable (path reason : String)
  | fileNotObject (path : String)
  | limit (l : Limit)
  | notSaved (path reason : String)
  | badPath (reason : String)

namespace ConfigError

def message : ConfigError → String
  | notMapping given => "Configuration must be a mapping, got " ++ given.kindLabel
  | exclusive options => "Options " ++ ", ".intercalate options ++ " are mutually exclusive"
  | scalarsShape => "scalars must be a module path or a mapping"
  | enumValuesShape => "enum_values must be a module path or a mapping"
  | directiveMappingsShape => "directive_argument_and_input_field_mappings must be a mapping"
  | unknownNaming given => "Unknown naming convention: " ++ given.display
  | longStyle => TextLimit.digits.message
  | recordShape option => option ++ " must be a string, boolean or mapping"
  | unknownKind category given =>
    "Invalid declaration_kind for " ++ category ++ ": " ++ given.display ++
      " (expected one of type, interface, class)"
  | longKind => "Invalid configuration: " ++ TextLimit.digits.message
  | unknownLanguage language => "No configuration registered for language: " ++ language
  | overridesShape given => "Custom options must be a mapping, got " ++ given.kindLabel
  | fileMissing path => "Configuration file not found: " ++ path
  | fileNotJson path => "Configuration file must be JSON: " ++ path
  | fileMalformed path reason => "Invalid JSON in configuration file " ++ path ++ ": " ++ reason
  | fileUnreadable path reason => "Failed to load configuration file " ++ path ++ ": " ++ reason
  | fileNotObject path => "Configuration file must contain a JSON object: " ++ path
  | limit l => l.message
  | notSaved path reason => "Failed to save configuration to " ++ path ++ ": " ++ reason
  | badPath reason => reason

end ConfigError

end SchemaTypings
