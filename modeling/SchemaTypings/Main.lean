import SchemaTypings.Console.Run

/-!
# The program

Reads the files that a command line names, runs the command, and writes what it leaves behind.
-/

open SchemaTypings

namespace SchemaTypings.Console

/-- Adds what a path leads to, as far as it can be read. -/
def fetch (folder : Folder) (name : String) : IO Folder := do
  let parts := Folder.keyOf (Path.ofString name)
  try
    let place ← IO.FS.realPath name
    if ← place.isDir then return { folder with directories := parts :: folder.directories }
    if ← place.pathExists then
      return { folder with files := Table.put folder.files parts (← IO.FS.readFile name) }
    return folder
  catch _ => return folder

/-- The paths that arguments name, with the directory of the output. -/
def named (a : Arguments) : List String :=
  let output := (a.output.map fun file =>
    let path := Path.ofString file
    { path with parts := path.parts.dropLast : Path }.text).toList
  a.files ++ a.config.toList ++ output

def gather (line : List String) : IO Folder :=
  match Request.ofWords line with
  | .run a => (named a).foldlM fetch {}
  | _ => return {}

def perform (line : List String) : IO UInt32 := do
  let folder ← gather line
  match run folder line with
  | .error crash => do
    IO.eprintln crash.message
    return 1
  | .ok outcome => do
    for (name, text) in outcome.folder.changes folder do
      IO.FS.writeFile name text
    IO.print outcome.shown
    match Request.ofWords line with
    | .refused reason => IO.eprintln ("error: " ++ reason)
    | _ => pure ()
    return outcome.exit.toUInt32

end SchemaTypings.Console

def main (line : List String) : IO UInt32 := SchemaTypings.Console.perform line
