import SchemaTypings.Config.Basic
import SchemaTypings.Json.Writer

/-!
# Configurations by language

A store knows the options and the defaults of each language and the aliases under which languages can
be asked for. A configuration is put together from the defaults, a file and custom options, each
taking precedence over the ones before.
-/

namespace SchemaTypings

/-- What a language can be configured with. -/
structure LanguageOptions where
  family : ConfigClass
  defaults : Table String Value

structure ConfigStore where
  languages : Table String LanguageOptions := []
  aliases : Table String String := []

namespace ConfigStore

/-- Makes a language known, or replaces what is known of it. Names count without their case. -/
def register (s : ConfigStore) (language : String) (family : ConfigClass)
    (defaults : Table String Value := []) (aliases : List String := []) : ConfigStore :=
  let key := Text.lowerString language
  { languages := Table.put s.languages key { family, defaults }
    aliases := Table.putAll s.aliases (aliases.map fun a => (Text.lowerString a, key)) }

/-- The language that a name stands for. An alias goes before a language of the same name. -/
def resolve (s : ConfigStore) (name : String) : String :=
  let key := Text.lowerString name
  (Table.get? s.aliases key).getD key

def list (s : ConfigStore) : List String := Table.keys s.languages

/-- The options in a file. -/
def readFile (folder : Folder) (file : String) (room : Room := .ample) :
    Except ConfigError (List (String × Value)) := do
  let path := Path.ofString file
  let entry ← (folder.find path).mapError fun e =>
    e.limit?.elim (.fileMissing path.text) ConfigError.limit
  if path.suffix ≠ ".json" then throw (.fileNotJson path.text)
  let text ← (Folder.textOf entry).mapError fun e => ConfigError.fileUnreadable path.text e.message
  let v ← (Json.read text room).mapError fun e =>
    e.limit?.elim (.fileMalformed path.text e.message) ConfigError.limit
  match v with
  | .object pairs => return pairs
  | _ => throw (.fileNotObject path.text)

/-- The options of a language after a file and custom options: later ones write over earlier ones that
are spelled alike. A false custom value counts as none. -/
def merged (known : LanguageOptions) (folder : Folder) (custom : Value) (file : String)
    (room : Room := .ample) : Except ConfigError (Table String Value) := do
  let fromFile ← if file.isEmpty then pure [] else readFile folder file room
  let base := Table.putAll known.defaults (normalizeKeys fromFile)
  if !custom.truthy then return base
  match custom with
  | .object pairs => return Table.putAll base (normalizeKeys pairs)
  | v => throw (.overridesShape v)

/-- The configuration of a language, with the warnings that reading it gives. -/
def config (s : ConfigStore) (folder : Folder) (language : String) (custom : Value := .null)
    (file : String := "") (room : Room := .ample) : List String × Except ConfigError Config :=
  match Table.get? s.languages (s.resolve language) with
  | none => ([], .error (.unknownLanguage language))
  | some known =>
    match merged known folder custom file room with
    | .error e => ([], .error e)
    | .ok pairs => Config.ofValue known.family (.object pairs) room

/-- The languages that are known from the start. -/
def builtin : ConfigStore :=
  register {} "typescript" .types
    [("naming_convention", .text "pascalCase"), ("declaration_kind", .text "type"),
     ("default_scalar_type", .text "any")]
    ["ts"]

end ConfigStore

namespace Config

/-- A configuration as the text of a file. -/
def text (c : Config) : String := Json.render (.object c.toPairs)

/-- Saves a configuration as a file, which is opened before anything is written. -/
def save (c : Config) (folder : Folder) (file : String) (room : Room := .ample) :
    Except ConfigError Folder := do
  let path := Path.ofString file
  let saved ← (folder.write path c.text).mapError fun
    | .nullCharacter => ConfigError.badPath Folder.Fault.nullCharacter.message
    | e => .notSaved path.text e.message
  let _ ← (Json.dump (.object c.toPairs) room).mapError ConfigError.limit
  return saved

end Config

end SchemaTypings
