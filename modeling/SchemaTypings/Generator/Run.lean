import SchemaTypings.Generator.Registry
import SchemaTypings.Schema.Build

/-!
# Generating code

The short ways from a schema and options to code, and ready-made sets of options.
-/

namespace SchemaTypings

open Code (EmitError Output)

/-! ## Direct runs -/

inductive PluginError where
  | config (e : ConfigError)
  | configShape (given : Value)
  | emit (e : EmitError)

def PluginError.message : PluginError → String
  | config e => e.message
  | configShape given => "Invalid config type: " ++ given.kindLabel
  | emit e => e.message

namespace Code

/-- The configuration that options mean; no options mean the standard ones. -/
def configOf (options : Value) (room : Room := .ample) : Except PluginError TypesConfig :=
  match options with
  | .null => (TypesConfig.default room).mapError .config
  | .object pairs =>
    (TypesConfig.ofOptions (Options.ofTable (normalizeKeys pairs)) room).mapError .config
  | v => .error (.configShape v)

/-- The declarations for a schema under options. -/
def plugin (schema : Schema) (options : Value) (room : Room := .ample) :
    Except PluginError Output := do
  let config ← configOf options room
  (emit schema config.settings room).mapError .emit

/-! ## Sets of options -/

/-- Options under which a scalar without a mapping is an error, output fields stay required and enums
become unions of texts. -/
def strictOptions (scalars : Value) (options : List (String × Value)) : Table String Value :=
  Table.putAll
    [("scalars", if scalars.truthy then scalars else .object []), ("strict_scalars", .bool true),
     ("avoid_optionals", .object [("field", .bool true)]), ("enums_as_types", .bool true)]
    options

/-- Options for models that are only read. -/
def immutableOptions (options : List (String × Value)) : Table String Value :=
  Table.putAll
    [("immutable_types", .bool true), ("non_optional_typename", .bool true),
     ("future_proof_enums", .bool true), ("future_proof_unions", .bool true)]
    options

end Code

/-! ## Runs by language -/

/-- Runs the generator of a language on a schema. -/
def generateFrom (r : Registry Backend) (store : ConfigStore) (folder : Folder)
    (language : String) (source : ConfigSource) (schema : Schema) (room : Room := .ample) :
    Except RegistryError (Except EmitError RunResult) := do
  return (← r.create store folder language source room).run schema

/-! ## Short runs -/

inductive QuickError where
  /-- An option is called like a parameter of the run itself. -/
  | reserved (key : String)
  | registry (e : RegistryError)
  | failed (message : String)

/-- What a short run reports when it fails. -/
def quickFailure (e : EmitError) : String := "Code generation failed: " ++ e.report

/-- The parameters of a short run, which no option can be called. -/
def quickParameters : List String := ["sdl", "language"]

/-- The code for a schema, or a failure if there is none. -/
def quickGenerate (r : Registry Backend) (store : ConfigStore) (folder : Folder)
    (language : String) (options : List (String × Value)) (schema : Schema)
    (room : Room := .ample) : Except QuickError String := do
  match (Table.keys options).find? quickParameters.contains with
  | some key => throw (.reserved key)
  | none =>
    let run ←
      (generateFrom r store folder language (.options options) schema room).mapError .registry
    match run with
    | .ok result => return result.code
    | .error e => throw (.failed (quickFailure e))

end SchemaTypings
