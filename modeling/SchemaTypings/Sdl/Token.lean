import SchemaTypings.Json.Reader
import SchemaTypings.Text.Blank

/-!
# Tokens of the schema language

Blanks, line ends, commas, byte order marks and comments separate tokens and mean nothing. Strings
stand in quotes on one line, or in triple quotes over several lines, whose common indentation does
not count.
-/

namespace SchemaTypings.Sdl

open SchemaTypings.Json (hexValue? readHex4? isHighSurrogate isLowSurrogate isDigit)

inductive Token where
  | mark (c : Char)
  | spread
  | name (s : String)
  | int (s : String)
  | float (s : String)
  | text (s : String)
  deriving DecidableEq, Repr

/-- Where a text leaves the grammar. -/
inductive SyntaxFault where
  | badCharacter (c : Char)
  | badNumber
  | badString
  | tooDeep
  | unexpected (t : Token)
  | ended
  deriving DecidableEq, Repr

def SyntaxFault.message : SyntaxFault → String
  | badCharacter c => "unexpected character " ++ String.ofList [c]
  | badNumber => "malformed number"
  | badString => "malformed string"
  | tooDeep => "nested too deeply"
  | unexpected (.mark c) => "unexpected " ++ String.ofList [c]
  | unexpected .spread => "unexpected ..."
  | unexpected (.name s) => "unexpected name " ++ s
  | unexpected (.int s) | unexpected (.float s) => "unexpected number " ++ s
  | unexpected (.text _) => "unexpected string"
  | ended => "unexpected end of the text"

/-! ## Names and numbers -/

def isNameStart (c : Char) : Bool := c.isAlpha || c = '_'

def isNamePart (c : Char) : Bool := isNameStart c || isDigit c

def isMark (c : Char) : Bool :=
  ['!', '$', '&', '(', ')', ':', '=', '@', '[', ']', '\x7b', '\x7d', '|'].contains c

def isIgnored (c : Char) : Bool :=
  c = ' ' || c = '\t' || c = ',' || c = '\uFEFF' || c = '\n' || c = '\r'

/-- Digits, at least one. -/
def digits? (cs : List Char) : Option (List Char × List Char) :=
  let run := cs.takeWhile isDigit
  if run.isEmpty then none else some (run, cs.dropWhile isDigit)

/-- A whole number without leading zeros. -/
def wholeDigits? : List Char → Option (List Char × List Char)
  | '0' :: rest =>
    match rest with
    | c :: _ => if isDigit c then none else some (['0'], rest)
    | [] => some (['0'], [])
  | cs => digits? cs

def signed? (cs : List Char) : Option (List Char × List Char) :=
  match cs with
  | '-' :: rest => (digits? rest).map fun (ds, rest) => ('-' :: ds, rest)
  | '+' :: rest => (digits? rest).map fun (ds, rest) => ('+' :: ds, rest)
  | cs => digits? cs

/-- A number and what follows it, which is neither a point nor a name. -/
def number? (cs : List Char) : Option (Token × List Char) := do
  let (sign, cs) : List Char × List Char :=
    match cs with
    | '-' :: rest => (['-'], rest)
    | cs => ([], cs)
  let (whole, cs) ← wholeDigits? cs
  let (fraction, cs) ←
    match cs with
    | '.' :: rest => (digits? rest).map fun (ds, rest) => ('.' :: ds, rest)
    | cs => some ([], cs)
  let (power, cs) ←
    match cs with
    | c :: rest =>
      if c = 'e' || c = 'E' then (signed? rest).map fun (ds, rest) => (c :: ds, rest)
      else some ([], c :: rest)
    | [] => some ([], [])
  let closed :=
    match cs with
    | c :: _ => !(c = '.' || isNameStart c)
    | [] => true
  if !closed then none
  else
    let written := String.ofList (sign ++ whole ++ fraction ++ power)
    return (if fraction.isEmpty && power.isEmpty then .int written else .float written, cs)

/-! ## Strings -/

/-- The digits and the closing brace of an escape of any width; at most eight digits. -/
def bracedCode? (code : Nat) : Nat → List Char → Option (Nat × List Char)
  | _, '\x7d' :: rest => some (code, rest)
  | count + 1, c :: rest => do bracedCode? (code * 16 + (← hexValue? c)) count rest
  | _, _ => none

/-- A character by its number; surrogates count only as a pair of four-digit escapes. -/
def unicodeEscape? : List Char → Option (Char × List Char)
  | '\x7b' :: '\x7d' :: _ => none
  | '\x7b' :: rest => do
    let (code, rest) ← bracedCode? 0 8 rest
    if code.isValidChar then some (Char.ofNat code, rest) else none
  | cs => do
    let (code, rest) ← readHex4? cs
    if code.isValidChar then some (Char.ofNat code, rest)
    else if isHighSurrogate code then
      match rest with
      | '\\' :: 'u' :: more => do
        let (low, rest) ← readHex4? more
        if isLowSurrogate low then
          some (Char.ofNat (0x10000 + (code - 0xD800) * 0x400 + (low - 0xDC00)), rest)
        else none
      | _ => none
    else none

/-- The rest of a one-line string after its opening quote. -/
def lineString (read : List Char) : Nat → List Char → Option (List Char × List Char)
  | 0, _ => none
  | _, [] => none
  | _ + 1, '"' :: rest => some (read.reverse, rest)
  | fuel + 1, '\\' :: 'u' :: rest =>
    match unicodeEscape? rest with
    | some (c, rest) => lineString (c :: read) fuel rest
    | none => none
  | fuel + 1, '\\' :: e :: rest =>
    match Json.simpleEscape? e with
    | some c => lineString (c :: read) fuel rest
    | none => none
  | fuel + 1, c :: rest =>
    if c = '\n' || c = '\r' then none else lineString (c :: read) fuel rest

/-- The lines up to the closing triple quote; `line` holds the current one, last character first. -/
def blockLines (line : List Char) (lines : List (List Char)) :
    List Char → Option (List (List Char) × List Char)
  | '"' :: '"' :: '"' :: rest => some ((line.reverse :: lines).reverse, rest)
  | '\\' :: '"' :: '"' :: '"' :: rest => blockLines ('"' :: '"' :: '"' :: line) lines rest
  | '\r' :: '\n' :: rest => blockLines [] (line.reverse :: lines) rest
  | '\r' :: rest => blockLines [] (line.reverse :: lines) rest
  | '\n' :: rest => blockLines [] (line.reverse :: lines) rest
  | c :: rest => blockLines (c :: line) lines rest
  | [] => none

def indentOf (line : List Char) : Nat := (line.takeWhile fun c => c = ' ' || c = '\t').length

def isIndentOnly (line : List Char) : Bool := indentOf line == line.length

/-- Drops the indentation that all lines but the first have in common, and blank outer lines. -/
def dedent (lines : List (List Char)) : List (List Char) :=
  let indents := (lines.tail.filter fun l => !isIndentOnly l).map indentOf
  let cut : List Char → List Char :=
    match indents.min? with
    | some n => List.drop n
    | none => fun _ => []
  let shifted :=
    match lines with
    | [] => []
    | first :: rest => first :: rest.map cut
  let kept := (lines.zip shifted).dropWhile fun p => isIndentOnly p.1
  ((kept.reverse.dropWhile fun p => isIndentOnly p.1).reverse).map (·.2)

def stringToken? : List Char → Option (Token × List Char)
  | '"' :: '"' :: '"' :: rest => do
    let (lines, rest) ← blockLines [] [] rest
    some (.text (String.ofList (Text.join ['\n'] (dedent lines))), rest)
  | '"' :: rest => do
    let (cs, rest) ← lineString [] (rest.length + 1) rest
    some (.text (String.ofList cs), rest)
  | _ => none

/-! ## All tokens -/

/-- Reads tokens; `read` holds those so far, last first. -/
def tokensFrom (read : List Token) : Nat → List Char → Except SyntaxFault (List Token)
  | _, [] => .ok read.reverse
  | 0, _ :: _ => .error .ended
  | fuel + 1, c :: rest =>
    if isIgnored c then tokensFrom read fuel rest
    else if c = '#' then
      tokensFrom read fuel (rest.dropWhile fun c => !(c = '\n' || c = '\r'))
    else if isMark c then tokensFrom (.mark c :: read) fuel rest
    else if isNameStart c then
      tokensFrom (.name (String.ofList (c :: rest.takeWhile isNamePart)) :: read) fuel
        (rest.dropWhile isNamePart)
    else if isDigit c || c = '-' then
      match number? (c :: rest) with
      | some (t, rest) => tokensFrom (t :: read) fuel rest
      | none => .error .badNumber
    else if c = '"' then
      match stringToken? (c :: rest) with
      | some (t, rest) => tokensFrom (t :: read) fuel rest
      | none => .error .badString
    else
      match c, rest with
      | '.', '.' :: '.' :: rest => tokensFrom (.spread :: read) fuel rest
      | c, _ => .error (.badCharacter c)

/-- The tokens of a text. -/
def tokens (s : String) : Except SyntaxFault (List Token) :=
  tokensFrom [] (s.toList.length + 1) s.toList

end SchemaTypings.Sdl
