import SchemaTypings.Code.Emit
import SchemaTypings.Config.Basic

/-!
# Generators

A back end writes code in one language; with a configuration that it takes it becomes a generator. A
run of a generator gives tidied code, warnings about the schema and a few counts, or the reason why
there is no code.
-/

namespace SchemaTypings

open Code (EmitError Output)

/-- What a generator does once it is configured. -/
structure Engine where
  /-- Warnings about a schema. -/
  review : Schema → Except EmitError (List String)
  generate : Schema → Except EmitError Output

structure Backend where
  language : String
  extension : String
  /-- The engine for a configuration, if it is of the family that the back end takes. -/
  engine? : Config → Option Engine

structure Generator where
  backend : Backend
  config : Config
  engine : Engine
  fits : backend.engine? config = some engine

def Backend.generator? (b : Backend) (c : Config) : Option Generator :=
  match h : b.engine? c with
  | some engine => some ⟨b, c, engine, h⟩
  | none => none

/-! ## Warnings -/

/-- The types that should have fields but have none. -/
def emptyTypeWarnings (schema : Schema) : List String :=
  (schema.userTypes.filter fun t => t.fieldCount? = some 0).map fun t =>
    "Type '" ++ t.name ++ "' has no fields"

namespace Code

def collisionWarning (enum key : String) : String :=
  "Enum '" ++ enum ++ "' has several values resolving to key " ++ key ++
    "; later ones are keyed by their raw name"

/-- The keys of local enums that several values would like to have. -/
def collisionWarnings (s : Settings) (t : NamedType) : Except EmitError (List String) := do
  match t.body with
  | .enum values =>
    if (← EmitError.ofMapping (s.externalEnum? t.name)).isSome then return []
    let values ← values.mapError EmitError.values
    return (keyCollisions s (values.map EnumValue.name)).map (collisionWarning t.name)
  | _ => return []

def warnings (schema : Schema) (s : Settings) : Except EmitError (List String) := do
  return emptyTypeWarnings schema ++
    (← schema.userTypes.mapM (collisionWarnings s)).flatten

/-- Writes the types of a schema as TypeScript declarations. -/
def backend (room : Room := .ample) : Backend :=
  { language := "typescript", extension := ".ts"
    engine? := fun
      | .types c => some { review := fun schema => warnings schema c.settings,
                           generate := fun schema => emit schema c.settings room }
      | .basic _ => none }

end Code

/-! ## Runs -/

/-- The counts of a run. -/
structure RunFacts where
  language : String
  extension : String
  types : Nat
  declarations : Nat
  preludeLines : Nat
  deriving DecidableEq, Repr

structure RunResult where
  code : String
  warnings : List String
  facts : RunFacts
  deriving DecidableEq, Repr

/-- Runs a generator; the warnings are looked for first. -/
def Generator.run (g : Generator) (schema : Schema) : Except EmitError RunResult := do
  let warnings ← g.engine.review schema
  let output ← g.engine.generate schema
  return { code := Code.tidy output.merged, warnings,
           facts := { language := g.backend.language, extension := g.backend.extension,
                      types := schema.userTypes.length, declarations := output.content.length,
                      preludeLines := output.prepend.length } }

/-- What a run that failed reports. Only scalars without a mapping and required fields of which one
is given are failures that a generator knows of; all others are announced. -/
def Code.EmitError.report (e : EmitError) : String :=
  match e with
  | .unknownScalar _ | .oneOfField .. => e.message
  | e => "Code generation failed: " ++ e.message

/-- The report of a run. One that failed has no code, no warnings and no counts. -/
structure RunReport where
  success : Bool
  code : String
  warnings : List String
  facts : Option RunFacts
  message : Option String
  deriving DecidableEq, Repr

def RunReport.ofRun : Except EmitError RunResult → RunReport
  | .ok r =>
    { success := true, code := r.code, warnings := r.warnings, facts := some r.facts,
      message := none }
  | .error e =>
    { success := false, code := "", warnings := [], facts := none, message := some e.report }

end SchemaTypings
