import SchemaTypings.Console.Arguments
import SchemaTypings.Console.Markup
import SchemaTypings.Console.Overrides
import SchemaTypings.Generator.Run
import SchemaTypings.Schema.Source

/-!
# The command

From a command line and a folder to what is shown, the folder afterwards and the exit code.
-/

namespace SchemaTypings.Console

/-- What a command leaves behind. -/
structure Outcome where
  exit : Nat
  shown : String
  folder : Folder

/-- Faults that the command does not report but stops at. -/
inductive Crash where
  | flawed (flaws : List Sdl.Flaw)
  | brokenIntrospection (fault : IntrospectionFault)
  | limit (l : Limit)
  /-- The language or a single option was given without its text. -/
  | missingText
  | badPath (reason : String)
  | markup (fault : MarkupFault)

def Crash.message : Crash → String
  | flawed flaws => "\n\n".intercalate (flaws.map (·.message))
  | brokenIntrospection fault => fault.message
  | limit l => l.message
  | missingText => "an option is without its text"
  | badPath reason => reason
  | markup fault => fault.message

abbrev Answer := Except Crash

/-- A line for the console, its style tags left out. -/
def say (text : String) : Answer String := (line text).mapError .markup

/-- Ends with a message and no change. -/
def stop (folder : Folder) (text : String) : Answer Outcome := do
  return { exit := 1, shown := ← say text, folder }

/-! ## The configuration of a run -/

inductive SetupError where
  | override (e : OverrideError)
  | config (e : ConfigError)
  | registry (e : RegistryError)

def SetupError.message : SetupError → String
  | override e => e.message
  | config e => "Configuration error: " ++ e.message
  | registry e => e.message

/-- The configuration that a file and single options give. -/
def configFor (store : ConfigStore) (folder : Folder) (a : Arguments) (language : String)
    (room : Room := .ample) : Except SetupError Config := do
  let overrides ← (parseOverrides a.overrides).mapError SetupError.override
  (store.config folder language (.object overrides) (a.config.getD "") room).2.mapError .config

def generatorFor (r : Registry Backend) (store : ConfigStore) (folder : Folder) (a : Arguments)
    (language : String) (room : Room := .ample) : Except SetupError Generator := do
  let config ← configFor store folder a language room
  (r.create store folder language (.ready config)).mapError .registry

/-- The faults of a setup that the command stops at. -/
def SetupError.crash? : SetupError → Option Crash
  | override .missing => some .missingText
  | override (.limit l) | config (.limit l) | registry (.limit l) => some (.limit l)
  | _ => none

/-- The generator that a command asks for. Single options are read even if no language is named. -/
def setup (r : Registry Backend) (store : ConfigStore) (folder : Folder) (a : Arguments)
    (room : Room := .ample) : Answer (Except SetupError Generator) :=
  let made : Except SetupError (Option Generator) :=
    match a.language with
    | some language => (generatorFor r store folder a language room).map some
    | none => ((parseOverrides a.overrides).mapError SetupError.override).map fun _ => none
  match made with
  | .ok (some g) => .ok (.ok g)
  | .ok none => .error .missingText
  | .error e =>
    match e.crash? with
    | some crash => .error crash
    | none => .ok (.error e)

/-! ## What is shown -/

def warningsText (warnings : List String) : Answer String := do
  if warnings.isEmpty then return ""
  let head ← say "\n[yellow]⚠️  Warnings:[/yellow]"
  let lines ← warnings.mapM fun w => say ("  [yellow]•[/yellow] " ++ w)
  return head ++ String.join lines ++ "\n"

/-- The counts of a run, for those who ask for more. -/
def factsText (f : RunFacts) : String :=
  "\nLanguage: " ++ f.language ++ "\nFile extension: " ++ f.extension ++ "\nType count: " ++
    toString f.types ++ "\nDeclaration count: " ++ toString f.declarations ++
    "\nPrelude lines: " ++ toString f.preludeLines ++ "\n"

/-- Writes the code to a file or shows it. -/
def deliver (folder : Folder) (a : Arguments) (g : Generator) (result : RunResult) :
    Answer Outcome := do
  let rest := (if a.verbose then factsText result.facts else "") ++
    (← warningsText result.warnings)
  match a.output.filter fun file => !file.isEmpty with
  | none => return { exit := 0, shown := result.code ++ rest, folder }
  | some file =>
    let path := Path.ofString file
    match folder.write path result.code with
    | .error .nullCharacter => .error (.badPath Folder.Fault.nullCharacter.message)
    | .error fault =>
      stop folder ("[red]✗ Failed to write to " ++ path.text ++ ":[/red] " ++ fault.message)
    | .ok written =>
      let saved ← say ("[green]✓[/green] Generated " ++ g.backend.language ++ " code saved to " ++
        "[cyan]" ++ path.text ++ "[/cyan]")
      return { exit := 0, shown := saved ++ rest, folder := written }

def generate (r : Registry Backend) (store : ConfigStore) (folder : Folder) (a : Arguments)
    (schema : Schema) (room : Room := .ample) : Answer Outcome := do
  match ← setup r store folder a room with
  | .error e => stop folder ("[red]✗ Error:[/red] " ++ e.message)
  | .ok g =>
    match g.run schema with
    | .error e => stop folder ("[red]✗ Code generation failed:[/red] " ++ e.report)
    | .ok result => deliver folder a g result

/-- The languages with their aliases. -/
def languagesText (r : Registry Backend) : String :=
  let lineFor (language : String) : String :=
    match r.find language with
    | .ok b => language ++ " (" ++ b.extension ++ "): " ++ ", ".intercalate (r.aliasesOf language)
    | .error _ => language
  "Supported languages\n" ++ String.join ((r.languages.map lineFor).map (· ++ "\n"))

/-! ## The schema of a run -/

/-- The faults of loading that the command stops at. -/
def loadCrash? : LoadError → Option Crash
  | .flawed flaws => some (.flawed flaws)
  | .brokenIntrospection fault => some (.brokenIntrospection fault)
  | .limit l => some (.limit l)
  | _ => none

/-- Loads the schema in some files, or shows why there is none. -/
def load (folder : Folder) (files : List String) : Answer (Except String Schema) :=
  match Schema.ofFiles folder files with
  | .ok (_, schema) => .ok (.ok schema)
  | .error e =>
    match loadCrash? e with
    | some crash => .error crash
    | none => (say ("❌ [red]" ++ e.message ++ "[/red]")).map .error

/-- Runs the command with arguments that are read. -/
def runWith (r : Registry Backend) (store : ConfigStore) (folder : Folder) (a : Arguments)
    (room : Room := .ample) : Answer Outcome :=
  if a.listLanguages then .ok { exit := 0, shown := languagesText r, folder }
  else if a.files.isEmpty then stop folder "❌ [red]No schema files given[/red]"
  else do
    match ← load folder a.files with
    | .ok schema => generate r store folder a schema room
    | .error shown => return { exit := 1, shown, folder }

/-- Runs a command line with the languages that are known from the start. -/
def run (folder : Folder) (line : List String) (room : Room := .ample) : Answer Outcome :=
  match Request.ofWords line with
  | .help => .ok { exit := 0, shown := "", folder }
  | .refused _ => .ok { exit := 2, shown := "", folder }
  | .run a => runWith (Registry.builtin room) ConfigStore.builtin folder a room

end SchemaTypings.Console
