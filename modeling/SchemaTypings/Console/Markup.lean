import SchemaTypings.Console.Constant
import SchemaTypings.Console.Style
import SchemaTypings.Text.Alphanumeric
import SchemaTypings.Text.CellWidth
import SchemaTypings.Text.Emoji

/-!
# Console text

Lines for a console may carry style tags in square brackets. Where no styles are shown the tags are
left out; a backslash before a tag keeps it as text. A tag that closes nothing is an error, and so is
one that closes an action whose parameters are no constants. The style of what is shown is still put
together, which a color without its numbers prevents. Names of emoji become emoji.
-/

namespace SchemaTypings.Console

/-- A piece of a line. -/
inductive Piece where
  | text (cs : List Char)
  | tag (cs : List Char)
  deriving DecidableEq, Repr

inductive MarkupFault where
  /-- A closing tag without an open one. -/
  | notOpen (tag : String)
  | badParameters (parameters : String)
  | badStyle (fault : StyleFault)
  deriving DecidableEq, Repr

def MarkupFault.message : MarkupFault → String
  | notOpen tag => "closing tag '" ++ tag ++ "' doesn't match any open tag"
  | badParameters parameters => "error parsing '" ++ parameters ++ "'"
  | badStyle fault => fault.message

def startsTag (c : Char) : Bool :=
  ('a' ≤ c && c ≤ 'z') || c = '#' || c = '/' || c = '@'

/-- The inside of a tag whose bracket is already read, and the rest after it. -/
def tag? : List Char → Option (List Char × List Char)
  | [] => none
  | c :: rest =>
    if !startsTag c then none
    else
      match rest.span fun d => d != '[' && d != ']' with
      | (inner, ']' :: after) => some (c :: inner, after)
      | _ => none

/-- The pieces of a line, with at most `rounds` steps; `plain` holds the text before, last character
first. -/
def piecesFrom (plain : List Char) : Nat → List Char → List Piece
  | 0, cs => [.text (plain.reverse ++ cs)]
  | _, [] => [.text plain.reverse]
  | rounds + 1, c :: rest =>
    if c != '\\' && c != '[' then piecesFrom (c :: plain) rounds rest
    else
      let (slashes, after) := (c :: rest).span (· == '\\')
      let text := Piece.text plain.reverse
      let kept := Piece.text (List.replicate (slashes.length / 2) '\\')
      match after with
      | '[' :: more =>
        match tag? more with
        | some (inner, beyond) =>
          if slashes.length % 2 = 1 then
            text :: kept :: .text ('[' :: inner ++ [']']) :: piecesFrom [] rounds beyond
          else text :: kept :: .tag inner :: piecesFrom [] rounds beyond
        | none => piecesFrom ('[' :: (slashes ++ plain)) rounds more
      | _ => piecesFrom (slashes ++ plain) rounds after

def pieces (cs : List Char) : List Piece := piecesFrom [] (cs.length + 1) cs

/-- A bracket that is no tag may have a backslash before it, which is left out. -/
def openBrackets : List Char → List Char
  | '\\' :: '[' :: rest => '[' :: openBrackets rest
  | c :: rest => c :: openBrackets rest
  | [] => []

/-! ## Tags -/

/-- A tag: the normal form of its style, what stands after an equals sign, and how many characters are
shown before it. -/
structure Tag where
  name : String
  parameters : List Char
  start : Nat
  deriving DecidableEq, Repr

def styleName (cs : List Char) : Except MarkupFault String := (Style.normal cs).mapError .badStyle

def Tag.ofChars (start : Nat) (cs : List Char) : Except MarkupFault Tag := do
  return { name := ← styleName (cs.takeWhile (· != '=')),
           parameters := (cs.dropWhile (· != '=')).drop 1, start }

def isActionNameChar (c : Char) : Bool := Text.isAlphanumeric c || c = '_' || c = '.'

/-- The parameters of an action after its name; without any they are an empty group. -/
def actionParameters (cs : List Char) : List Char :=
  let cs := Text.trim cs
  let rest := cs.dropWhile isActionNameChar
  if rest.isEmpty then ['(', ')']
  else if rest.head? = some '(' && rest.getLast? = some ')' && !rest.contains '\n' then rest
  else cs

/-- A tag whose name starts with an at sign is an action: what it is given has to be constant. -/
def Tag.checkAction (t : Tag) : Except MarkupFault Unit :=
  if t.name.toList.head? = some '@' && !t.parameters.isEmpty &&
    !isConstant (actionParameters t.parameters) then
    .error (.badParameters (String.ofList t.parameters))
  else .ok ()

/-- Takes the tag that is closed out of those that are open, the latest first. Without a name it is
the latest. -/
def closeTag (opened : List Tag) (name : String) : Except MarkupFault (Tag × List Tag) :=
  let notOpen : Except MarkupFault (Tag × List Tag) := .error (.notOpen ("[/" ++ name ++ "]"))
  if name.isEmpty then
    match opened with
    | [] => notOpen
    | t :: rest => .ok (t, rest)
  else
    match opened.find? fun t => t.name = name with
    | some t => .ok (t, opened.erase t)
    | none => notOpen

/-- Characters that would move the cursor are left out. -/
def isControl (c : Char) : Bool := [7, 8, 11, 12, 13].contains c.toNat

/-- A stretch of shown characters and the words of its style. -/
structure Span where
  start : Nat
  stop : Nat
  style : List Char
  deriving DecidableEq, Repr

/-- What a tag does up to a place. Its parameters are taken for words of its style; those of an action
are no style at all. -/
def Tag.span (t : Tag) (stop : Nat) : Span :=
  { start := t.start, stop, style := t.name.toList ++ ' ' :: t.parameters }

/-- The characters of pieces that are shown after `shown` others, with the styles that they have;
`opened` holds the tags that are open, the latest first. -/
def writePieces (shown : Nat) (opened : List Tag) :
    List Piece → Except MarkupFault (List Char × List Span)
  | [] => .ok ([], opened.map fun t => t.span shown)
  | .text cs :: rest => do
    let cs := (Text.replaceEmoji (openBrackets cs)).filter fun c => !isControl c
    let (more, spans) ← writePieces (shown + cs.length) opened rest
    return (cs ++ more, spans)
  | .tag ('/' :: cs) :: rest => do
    let cs := Text.trim (cs.takeWhile (· != '='))
    let (t, opened) ← closeTag opened (← if cs.isEmpty then pure "" else styleName cs)
    t.checkAction
    let (more, spans) ← writePieces shown opened rest
    return (more, t.span shown :: spans)
  | .tag cs :: rest => do
    let t ← Tag.ofChars shown cs
    writePieces shown (t :: opened) rest

/-- Whether the style of a span is needed. Where lines or columns are told apart, this takes a character
that is no line end. -/
def Span.isShown (cs : List Char) (s : Span) : Bool :=
  !(cs.contains '\n' || cs.contains '\t') ||
    ((cs.take s.stop).drop s.start).any fun c => c != '\n'

/-- Words that are no style have no effect, but a color without its numbers is a fault. -/
def Span.check (s : Span) : Except MarkupFault Unit :=
  match Style.normal s.style with
  | .ok _ => .ok ()
  | .error fault => .error (.badStyle fault)

/-! ## Lines -/

/-- A part of a line with blanks in place of the tab after it: one, and as many as it takes to the next
eighth column. -/
def filled (part : List Char) : List Char :=
  let part := part ++ [' ']
  part ++ List.replicate ((8 - Text.cells part % 8) % 8) ' '

/-- A line without tabs; each part between them starts at an eighth column. -/
def expandTabs (line : List Char) : List Char :=
  let parts := Text.cut '\t' line
  parts.dropLast.flatMap filled ++ parts.getLastD []

def plainChars (cs : List Char) : Except MarkupFault (List Char) := do
  let (cs, spans) ← writePieces 0 [] (pieces cs)
  (spans.filter (Span.isShown cs)).forM Span.check
  return Text.join ['\n'] ((Text.cut '\n' cs).map expandTabs)

/-- A line as it is shown without styles. -/
def line (text : String) : Except MarkupFault String :=
  (plainChars text.toList).map fun cs => String.ofList cs ++ "\n"

end SchemaTypings.Console
