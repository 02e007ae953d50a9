import SchemaTypings.Text.Blank
import SchemaTypings.Text.Digit

/-!
# Arguments

What the words of a command line ask for: schema files, options with a value, and switches. Long
options may be cut short as long as only one fits; short ones may hold their value or further short
ones. The files stand together; files after another option are refused. Two dashes that are attached
to an option leave it without its value.
-/

namespace SchemaTypings.Console

structure Arguments where
  files : List String := []
  /-- The language, unless it was given without its name. -/
  language : Option String := some "typescript"
  output : Option String := none
  config : Option String := none
  /-- Single options, those without a text among them. -/
  overrides : List (Option String) := []
  verbose : Bool := false
  listLanguages : Bool := false
  help : Bool := false
  deriving DecidableEq, Repr

/-- What an option sets. -/
inductive Flag where
  | help
  | language
  | output
  | config
  | override
  | verbose
  | listLanguages
  deriving DecidableEq, Repr

namespace Flag

def spellings : List (String × Flag) :=
  [("-h", help), ("--help", help), ("--language", language), ("-l", language),
   ("--output", output), ("-o", output), ("--config", config), ("--set", override),
   ("--verbose", verbose), ("-v", verbose), ("--list-languages", listLanguages)]

def takesValue : Flag → Bool
  | language | output | config | override => true
  | help | verbose | listLanguages => false

end Flag

/-! ## Words -/

inductive Word where
  | plain (s : String)
  /-- Two dashes: all words after them are plain. -/
  | dashes
  /-- An option, what is attached to it, and whether its name is short, so that further short options
  may be attached. -/
  | option (flag : Flag) (attached : Option String) (isShort : Bool)
  | unknown (s : String)
  /-- A long option cut so short that several fit. -/
  | ambiguous (s : String)
  deriving DecidableEq, Repr

/-- A dash and a decimal number; a newline may follow. -/
def isNegativeNumber (cs : List Char) : Bool :=
  let cs := if cs.getLast? = some '\n' then cs.dropLast else cs
  match cs with
  | '-' :: rest =>
    match Text.cutFirst ['.'] rest with
    | some (whole, part) =>
      whole.all Text.isDecimalDigit && !part.isEmpty && part.all Text.isDecimalDigit
    | none => !rest.isEmpty && rest.all Text.isDecimalDigit
  | _ => false

/-- A name and what is attached to it by an equals sign. -/
def splitAttached (cs : List Char) : List Char × Option (List Char) :=
  match Text.cutFirst ['='] cs with
  | some (name, value) => (name, some value)
  | none => (cs, none)

def isLong (cs : List Char) : Bool := ['-', '-'].isPrefixOf cs

def flagOf? (cs : List Char) : Option Flag := Flag.spellings.lookup (String.ofList cs)

/-- The readings of a word that is no exact option: a long option cut short, or a short one with
something attached. -/
def readings (cs : List Char) : List Word :=
  let attached (v : Option (List Char)) : Option String := v.map String.ofList
  if isLong cs then
    let (name, value) := splitAttached cs
    (Flag.spellings.filter fun p => name.isPrefixOf p.1.toList).map fun p =>
      .option p.2 (attached value) false
  else
    match flagOf? (cs.take 2) with
    | some flag => [.option flag (attached (some (cs.drop 2))) true]
    | none => []

/-- What a word is, seen alone. -/
def wordOf (s : String) : Word :=
  let cs := s.toList
  if cs.head? != some '-' || cs = ['-'] then .plain s
  else if cs = ['-', '-'] then .dashes
  else
    match flagOf? cs with
    | some flag => .option flag none (!isLong cs)
    | none =>
      let (name, value) := splitAttached cs
      match value.bind fun value => (flagOf? name).map fun flag => (flag, value) with
      | some (flag, value) => .option flag (some (String.ofList value)) (!isLong name)
      | none =>
        match readings cs with
        | [word] => word
        | [] => if isNegativeNumber cs || cs.contains ' ' then .plain s else .unknown s
        | _ => .ambiguous s

/-- What the words of a line are. -/
def words : List String → List Word
  | [] => []
  | s :: rest =>
    match wordOf s with
    | .dashes => .dashes :: rest.map .plain
    | word => word :: words rest

/-! ## Reading a line -/

/-- How a line ends: with arguments, with the help text, or refused. -/
inductive Request where
  | run (arguments : Arguments)
  | help
  | refused (reason : String)
  deriving DecidableEq, Repr

namespace Arguments

/-- Sets an option; it may be without its value. -/
def setValue (a : Arguments) (value : Option String) : Flag → Arguments
  | .language => { a with language := value }
  | .output => { a with output := value }
  | .config => { a with config := value }
  | .override => { a with overrides := a.overrides ++ [value] }
  | _ => a

def switchOn (a : Arguments) : Flag → Arguments
  | .verbose => { a with verbose := true }
  | .listLanguages => { a with listLanguages := true }
  | .help => { a with help := true }
  | _ => a

end Arguments

/-- What reading an option leads to: on with the arguments, an option that still needs a value, or a
refusal. -/
inductive Taken where
  | set (a : Arguments)
  | needs (a : Arguments) (flag : Flag)
  | refused (reason : String)

/-- Reads an option to which nothing is attached. -/
def takeBare (a : Arguments) (flag : Flag) : Taken :=
  if flag.takesValue then .needs a flag else .set (a.switchOn flag)

/-- The value that is attached to an option; two dashes are none. -/
def attachedValue (cs : List Char) : Option String :=
  if cs = ['-', '-'] then none else some (String.ofList cs)

def ignored (attached : List Char) : Taken :=
  .refused ("ignored explicit argument " ++ String.ofList attached)

/-- Reads a short option with what is attached to it: its value, or further short options. -/
def takeShort (a : Arguments) (flag : Flag) : List Char → Taken
  | [] => if flag.takesValue then .set (a.setValue (some "") flag) else ignored []
  | c :: rest =>
    if flag.takesValue then .set (a.setValue (attachedValue (c :: rest)) flag)
    else
      match flagOf? ['-', c] with
      | none => ignored (c :: rest)
      | some next =>
        if rest.isEmpty then takeBare (a.switchOn flag) next
        else takeShort (a.switchOn flag) next rest

/-- Reads an option with what is attached to it. -/
def takeOption (a : Arguments) (flag : Flag) (isShort : Bool) : Option String → Taken
  | none => takeBare a flag
  | some attached =>
    if isShort then takeShort a flag attached.toList
    else if flag.takesValue then .set (a.setValue (attachedValue attached.toList) flag)
    else ignored attached.toList

/-- The plain words and dashes in front. -/
def plainRun : List Word → List Word × List Word
  | .plain s :: rest =>
    let (run, after) := plainRun rest
    (.plain s :: run, after)
  | .dashes :: rest =>
    let (run, after) := plainRun rest
    (.dashes :: run, after)
  | rest => ([], rest)

/-- The texts of plain words; the dashes do not count. -/
def plainTexts (run : List Word) : List String :=
  run.filterMap fun
    | .plain s => some s
    | _ => none

structure Progress where
  arguments : Arguments := {}
  /-- Whether the files were already given. -/
  hasFiles : Bool := false
  refused : Option String := none

/-- Takes a run of plain words as the files, the first time. -/
def Progress.takeRun (p : Progress) (run : List Word) : Progress :=
  if run.isEmpty then p
  else if p.hasFiles then { p with refused := p.refused.or (some "unrecognized arguments") }
  else { p with hasFiles := true, arguments := { p.arguments with files := plainTexts run } }

/-- Reads words from left to right, at most `rounds` steps. -/
def readWords (p : Progress) : Nat → List Word → Request
  | 0, _ => .refused "too many words"
  | _, [] =>
    match p.refused with
    | some reason => .refused reason
    | none => .run p.arguments
  | rounds + 1, word :: rest =>
    match word with
    | .plain _ | .dashes =>
      let (run, after) := plainRun (word :: rest)
      readWords (p.takeRun run) rounds after
    | .unknown s =>
      readWords { p with refused := p.refused.or (some ("unrecognized arguments: " ++ s)) }
        rounds rest
    | .ambiguous s => .refused ("ambiguous option: " ++ s)
    | .option flag attached isShort =>
      match takeOption p.arguments flag isShort attached with
      | .refused reason => .refused reason
      | .set a => if a.help then .help else readWords { p with arguments := a } rounds rest
      | .needs a flag =>
        match rest with
        | .plain value :: rest =>
          let a := a.setValue (some value) flag
          if a.help then .help else readWords { p with arguments := a } rounds rest
        | _ => .refused "expected one argument"

def Word.ambiguous? : Word → Option String
  | .ambiguous s => some s
  | _ => none

/-- An option that is cut too short is refused before any other word is read. -/
def Request.ofWords (line : List String) : Request :=
  let all := words line
  match all.findSome? Word.ambiguous? with
  | some s => .refused ("ambiguous option: " ++ s)
  | none => readWords {} (line.length + 1) all

end SchemaTypings.Console
