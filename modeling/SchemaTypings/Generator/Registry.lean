import SchemaTypings.Config.Store
import SchemaTypings.Generator.Basic

/-!
# Registries

A registry finds what is registered for a language by its name or by an alias. What it holds is open;
generators are created from a registry of back ends.
-/

namespace SchemaTypings

inductive RegistryError where
  | notAGenerator
  | aliasIsLanguage (other : String)
  | aliasTaken (other owner : String)
  | unknownLanguage (language : String) (available : List String)
  | notCreated (language : String) (e : ConfigError)
  | configShape (given : Value)
  | configFamily (family : ConfigClass)
  | limit (l : Limit)

def RegistryError.message : RegistryError → String
  | notAGenerator => "Generator class must inherit from CodeGenerator"
  | aliasIsLanguage other => "Alias '" ++ other ++ "' conflicts with existing primary language"
  | aliasTaken other owner => "Alias '" ++ other ++ "' already points to '" ++ owner ++ "'"
  | unknownLanguage language available =>
    "No generator registered for language: " ++ language ++ ". Available: " ++
      ", ".intercalate available
  | notCreated language e => "Failed to create " ++ language ++ " generator: " ++ e.message
  | configShape given => "Invalid config type: " ++ given.kindLabel
  | configFamily family =>
    "Invalid config type: " ++ (match family with | .basic => "basic" | .types => "types")
  | limit l => l.message

/-- Why a generator is not created with a configuration. -/
def RegistryError.ofConfig (language : String) : ConfigError → RegistryError
  | .limit l => limit l
  | e => notCreated language e

structure Registry (γ : Type) where
  generators : Table String γ := []
  aliases : Table String String := []
  deriving Repr

namespace Registry

variable {γ : Type}

/-- The language that a name stands for. An alias goes before a language of the same name. -/
def resolve (r : Registry γ) (name : String) : String :=
  let key := Text.lowerString name
  (Table.get? r.aliases key).getD key

/-- Why an alias cannot point to a language, unless what is there may be replaced. -/
def refusal? (r : Registry γ) (key other : String) (replace : Bool) : Option RegistryError :=
  if replace then none
  else if Table.has r.generators (Text.lowerString other) then some (.aliasIsLanguage other)
  else
    match Table.get? r.aliases (Text.lowerString other) with
    | some owner => if owner ≠ key then some (.aliasTaken other owner) else none
    | none => none

/-- Adds aliases one after the other, up to the first that is refused. -/
def addAliases (key : String) (replace : Bool) :
    List String → Registry γ → Registry γ × Except RegistryError Unit
  | [], r => (r, .ok ())
  | other :: rest, r =>
    if Text.lowerString other = key then addAliases key replace rest r
    else
      match r.refusal? key other replace with
      | some e => (r, .error e)
      | none =>
        addAliases key replace rest
          { r with aliases := Table.put r.aliases (Text.lowerString other) key }

/-- Registers a generator for a language. A language that is registered stays as it is unless it may
be replaced. -/
def register (r : Registry γ) (language : String) (generator : Option γ)
    (aliases : List String := []) (replace : Bool := false) :
    Registry γ × Except RegistryError Unit :=
  match generator with
  | none => (r, .error .notAGenerator)
  | some g =>
    let key := Text.lowerString language
    if Table.has r.generators key && !replace then (r, .ok ())
    else addAliases key replace aliases { r with generators := Table.put r.generators key g }

/-- Removes the language that a name stands for, and every alias of it. -/
def unregister (r : Registry γ) (name : String) : Registry γ :=
  let key := r.resolve name
  { generators := Table.erase r.generators key
    aliases := r.aliases.filter fun p => p.2 ≠ key }

/-- The names in alphabetical order. -/
def sorted (names : List String) : List String := names.mergeSort fun a b => decide (a ≤ b)

def languages (r : Registry γ) : List String := sorted (Table.keys r.generators)

def aliasesOf (r : Registry γ) (name : String) : List String :=
  let key := r.resolve name
  sorted (Table.keys (r.aliases.filter fun p => p.2 = key))

def supports (r : Registry γ) (name : String) : Bool := Table.has r.generators (r.resolve name)

def find (r : Registry γ) (language : String) : Except RegistryError γ :=
  match Table.get? r.generators (r.resolve language) with
  | some g => .ok g
  | none => .error (.unknownLanguage language r.languages)

end Registry

/-! ## Creating generators -/

/-- Where the configuration of a generator comes from. -/
inductive ConfigSource where
  | standard
  | ready (c : Config)
  | file (path : String)
  | options (pairs : List (String × Value))
  | unusable (given : Value)

/-- A text names a file, a mapping holds options. -/
def ConfigSource.ofValue : Value → ConfigSource
  | .null => standard
  | .text path => file path
  | .object pairs => options pairs
  | v => unusable v

namespace Registry

/-- The configuration for a language from its source. -/
def configFrom (store : ConfigStore) (folder : Folder) (language name : String)
    (source : ConfigSource) (room : Room := .ample) : Except RegistryError Config :=
  match source with
  | .ready c => .ok c
  | .unusable v => .error (.configShape v)
  | .standard => load .null ""
  | .file path => load .null path
  | .options pairs => load (.object pairs) ""
where
  load (custom : Value) (path : String) : Except RegistryError Config :=
    (store.config folder language custom path room).2.mapError (.ofConfig name)

/-- Creates the generator of a language. -/
def create (r : Registry Backend) (store : ConfigStore) (folder : Folder) (language : String)
    (source : ConfigSource) (room : Room := .ample) : Except RegistryError Generator := do
  let backend ← r.find language
  let config ← configFrom store folder (r.resolve language) language source room
  match backend.generator? config with
  | some g => return g
  | none => throw (.configFamily config.kind)

/-- The back ends that are registered from the start. -/
def builtin (room : Room := .ample) : Registry Backend :=
  (register {} "typescript" (some (Code.backend room)) ["ts"]).1

end Registry

end SchemaTypings
