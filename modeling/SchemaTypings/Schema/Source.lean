import SchemaTypings.Folder.Limit
import SchemaTypings.Schema.Introspection

/-!
# Schemas from files

Files in the schema language are read as one document; a single JSON file holds a schema's description
of itself.
-/

namespace SchemaTypings

inductive LoadError where
  | noFiles
  | fileMissing (path : String)
  | unreadable (path reason : String)
  | notJson (path reason : String)
  | notIntrospection (path : String)
  | badIntrospection (path reason : String)
  /-- The description lacks an entry that nothing can be said without. -/
  | brokenIntrospection (fault : IntrospectionFault)
  | limit (l : Limit)
  | invalid (source reason : String)
  /-- The document is well formed but breaks a rule of schemas. -/
  | flawed (flaws : List Sdl.Flaw)

def LoadError.message : LoadError → String
  | noFiles => "At least one schema file must be provided"
  | fileMissing path => "File not found: " ++ path
  | unreadable path reason => "Error reading file " ++ path ++ ": " ++ reason
  | notJson path reason => "Invalid JSON in file " ++ path ++ ": " ++ reason
  | notIntrospection path => "Not an introspection result: " ++ path
  | badIntrospection path reason => "Invalid introspection result in " ++ path ++ ": " ++ reason
  | brokenIntrospection fault => fault.message
  | limit l => l.message
  | invalid source reason => "Invalid schema in " ++ source ++ ": " ++ reason
  | flawed flaws => "\n\n".intercalate (flaws.map (·.message))

namespace Schema

def readFile (folder : Folder) (path : Path) : Except LoadError String := do
  let entry ← (folder.find path).mapError fun e =>
    e.limit?.elim (.fileMissing path.text) LoadError.limit
  (Folder.textOf entry).mapError fun e => .unreadable path.text e.message

/-- The description in a JSON text: at its top, or below `data`. -/
def description? (v : Value) : Option Value :=
  let v :=
    match v with
    | .object fields => (Table.get? fields "data").getD v
    | v => v
  v.asObject?.bind fun fields => Table.get? fields "__schema"

def ofIntrospectionFile (folder : Folder) (path : Path) : Except LoadError Schema := do
  let text ← readFile folder path
  let v ← (Json.read text).mapError fun e =>
    e.limit?.elim (.notJson path.text e.message) LoadError.limit
  let some description := description? v | throw (.notIntrospection path.text)
  (Introspection.schema description).mapError fun e =>
    match e with
    | .incomplete reason => .badIntrospection path.text reason
    | fault => .brokenIntrospection fault

def ofTexts (source : String) (texts : List String) : Except LoadError Schema :=
  (Schema.ofText ("\n".intercalate texts)).mapError fun e =>
    match e with
    | .flawed flaws => .flawed flaws
    | e => .invalid source e.message

/-- How messages name the files of a schema. -/
def sourceOf (paths : List Path) : String := ", ".intercalate (paths.map Path.text)

/-- The schema in some files, and how messages name them. -/
def ofFiles (folder : Folder) (files : List String) : Except LoadError (String × Schema) := do
  let paths := files.map Path.ofString
  let source := sourceOf paths
  match paths with
  | [] => throw .noFiles
  | [path] =>
    if path.suffix = ".json" then return (source, ← ofIntrospectionFile folder path)
    else return (source, ← ofTexts source [← readFile folder path])
  | paths => return (source, ← ofTexts source (← paths.mapM (readFile folder)))

end Schema

end SchemaTypings
