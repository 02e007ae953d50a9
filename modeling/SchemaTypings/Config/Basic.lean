import SchemaTypings.Config.Settings

/-!
# Configurations

A configuration is a value for each option together with the settings that these values mean. It is
read from a mapping, whose keys may be spelled in any style and whose unknown keys are reported and
left out.
-/

namespace SchemaTypings

/-- Options that have settings where there is room enough to read them. -/
structure TypesConfig where
  options : Options
  settings : Settings
  valid : ∃ room, Settings.ofOptions options room = .ok settings

namespace TypesConfig

def ofOptions (o : Options) (room : Room := .ample) : Except ConfigError TypesConfig :=
  match h : Settings.ofOptions o room with
  | .ok settings => .ok ⟨o, settings, room, h⟩
  | .error e => .error e

end TypesConfig

/-- The families of options that a language can have. -/
inductive ConfigClass where
  | basic
  | types
  deriving DecidableEq, Repr, Inhabited

namespace ConfigClass

/-- The options of a family, in order. -/
def names : ConfigClass → List OptionName
  | basic => [.outputFile]
  | types => OptionName.all

def knows (c : ConfigClass) (key : String) : Bool := c.names.any fun o => o.key = key

end ConfigClass

inductive Config where
  | basic (outputFile : Value)
  | types (config : TypesConfig)

namespace Config

def kind : Config → ConfigClass
  | basic _ => .basic
  | types _ => .types

/-- The options of a configuration with their values, in order. -/
def toPairs : Config → List (String × Value)
  | basic outputFile => [(OptionName.outputFile.key, outputFile)]
  | types config => config.options.toPairs OptionName.all

def ofTable (c : ConfigClass) (t : Table String Value) (room : Room := .ample) :
    Except ConfigError Config :=
  match c with
  | .basic => .ok (.basic (Options.ofTable t .outputFile))
  | .types => (TypesConfig.ofOptions (Options.ofTable t) room).map .types

/-- The keys of a mapping that no option of the family has, under their normalized spelling. -/
def unknownKeys (c : ConfigClass) (pairs : List (String × Value)) : List String :=
  (Table.keys (normalizeKeys pairs)).filter fun key => !c.knows key

def ofPairs (c : ConfigClass) (pairs : List (String × Value)) (room : Room := .ample) :
    Except ConfigError Config :=
  ofTable c (normalizeKeys pairs) room

def unknownKeyWarning (key : String) : String :=
  "Ignoring unknown configuration option: " ++ key

/-- A configuration from a value, and the warnings about keys that mean no option. -/
def ofValue (c : ConfigClass) (v : Value) (room : Room := .ample) :
    List String × Except ConfigError Config :=
  match v with
  | .object pairs => ((unknownKeys c pairs).map unknownKeyWarning, ofPairs c pairs room)
  | v => ([], .error (.notMapping v))

end Config

/-- The settings of a configuration in which nothing is set. -/
def TypesConfig.default (room : Room := .ample) : Except ConfigError TypesConfig :=
  TypesConfig.ofOptions Options.defaults room

end SchemaTypings
