import SchemaTypings.Text.Blank

/-!
# Written code

The lines and blocks of a run, and the text of the file that they make up.
-/

namespace SchemaTypings.Code

structure Output where
  /-- Lines before all blocks. -/
  prepend : List String := []
  content : List String := []
  deriving DecidableEq, Repr

/-- One text: the lines together, then each block after an empty line. -/
def Output.merged (o : Output) : String :=
  let parts := (if o.prepend.isEmpty then [] else ["\n".intercalate o.prepend]) ++ o.content
  if parts.isEmpty then "" else "\n\n".intercalate parts ++ "\n"

/-! ## Tidying -/

/-- Leaves at most two of the newlines that follow each other, where `kept` went before. -/
def squeeze (kept : Nat) : List Char → List Char
  | [] => []
  | c :: rest =>
    if c = '\n' then
      if kept < 2 then c :: squeeze (kept + 1) rest else squeeze kept rest
    else c :: squeeze 0 rest

def tidyChars (code : List Char) : List Char :=
  squeeze 0 (Text.join ['\n'] ((Text.cut '\n' code).map Text.trimEnd))

/-- Drops blank line ends and all but one of the empty lines that follow each other. -/
def tidy (code : String) : String := String.ofList (tidyChars code.toList)

end SchemaTypings.Code
