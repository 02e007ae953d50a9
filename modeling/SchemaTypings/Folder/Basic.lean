import SchemaTypings.Folder.Path
import SchemaTypings.Table

/-!
# Folders

The texts of the files in a folder, each under the parts of its path. A directory is there if some
file is below it, or if it is listed. Of what lies outside of the folder it is known that the
directories above it exist; files under an absolute path are kept below the part `/`.
-/

namespace SchemaTypings

structure Folder where
  files : Table (List String) String := []
  directories : List (List String) := []
  deriving Repr

/-- What a path leads to. -/
inductive Entry where
  | file (text : String)
  | directory
  deriving DecidableEq, Repr

/-- Where a path leads, whether or not something is there. -/
inductive Place where
  | inside (parts : List String)
  | above
  deriving DecidableEq, Repr

namespace Folder

/-- Whether these parts lead to a directory; the folder itself always is one. -/
def isDirectory (f : Folder) (parts : List String) : Bool :=
  parts.isEmpty || f.directories.any parts.isPrefixOf ||
    (Table.keys f.files).any fun key => parts.isPrefixOf key && key != parts

/-- Why nothing can be read from a path or written to it. -/
inductive Fault where
  | missing
  | isDirectory
  | nameTooLong
  /-- The path holds a null character, which no path can. -/
  | nullCharacter
  deriving DecidableEq, Repr

def Fault.message : Fault → String
  | missing => "no such file or directory"
  | isDirectory => "is a directory"
  | nameTooLong => "file name too long"
  | nullCharacter => "embedded null byte"

/-- The most bytes that a part of a path can have. -/
def longestName : Nat := 255

/-- The most bytes that a path can have. -/
def longestPath : Nat := 4095

/-- Goes down a path, only through directories. A part is looked up in a directory only, so that one
that is too long is no fault where there is nothing to look it up in. -/
def walk (f : Folder) : Place → List String → Except Fault Place
  | place, [] => .ok place
  | .above, part :: rest =>
    if longestName < part.utf8ByteSize then .error .nameTooLong
    else if part = ".." then f.walk .above rest
    else .error .missing
  | .inside parts, part :: rest =>
    if !f.isDirectory parts then .error .missing
    else if longestName < part.utf8ByteSize then .error .nameTooLong
    else if part = ".." then
      f.walk (if parts.isEmpty || parts = ["/"] then .above else .inside parts.dropLast) rest
    else f.walk (.inside (parts ++ [part])) rest

def place (f : Folder) (p : Path) : Except Fault Place :=
  if p.parts.any fun part => part.toList.contains '\x00' then .error .nullCharacter
  else if longestPath < p.text.utf8ByteSize then .error .nameTooLong
  else if p.root.isEmpty then f.walk (.inside []) p.parts
  else f.walk (if f.isDirectory ["/"] then .inside ["/"] else .above) p.parts

/-- What stands at the end of a path. -/
def find (f : Folder) (p : Path) : Except Fault Entry := do
  match ← f.place p with
  | .above => return .directory
  | .inside parts =>
    match Table.get? f.files parts with
    | some text => return .file text
    | none => if f.isDirectory parts then return .directory else throw .missing

/-- The text of a file that is found. -/
def textOf : Entry → Except Fault String
  | .file text => .ok text
  | .directory => .error .isDirectory

/-- The parts of the device that reads as empty whatever is written to it. -/
def nullDevice : List String := ["/", "dev", "null"]

/-- Writes a file into a directory that exists. -/
def write (f : Folder) (p : Path) (text : String) : Except Fault Folder := do
  match ← f.place p with
  | .above => throw .isDirectory
  | .inside parts =>
    if f.isDirectory parts then throw .isDirectory
    else if parts = nullDevice then return f
    else return { f with files := Table.put f.files parts text }

/-- The parts under which the file at a path is kept. -/
def keyOf (p : Path) : List String := if p.root.isEmpty then p.parts else "/" :: p.parts

/-- The directories at the top of a system. -/
def topDirectories : List (List String) :=
  ["bin", "boot", "dev", "etc", "home", "lib", "media", "mnt", "opt", "proc", "root", "run", "sbin",
   "srv", "sys", "tmp", "usr", "var"].map fun name => ["/", name]

/-- A folder with these files, and the directories that they need. -/
def ofFiles (files : List (String × String)) : Folder :=
  let own := files.map fun (name, text) => (keyOf (Path.ofString name), text)
  { files := Table.ofPairs ((nullDevice, "") :: own), directories := topDirectories }

/-- The files that are new or changed since an earlier state. -/
def changes (f earlier : Folder) : List (String × String) :=
  (f.files.filter fun (parts, text) => Table.get? earlier.files parts != some text).map
    fun (parts, text) =>
      (match parts with
        | "/" :: rest => "/" ++ "/".intercalate rest
        | parts => "/".intercalate parts, text)

end Folder

end SchemaTypings
