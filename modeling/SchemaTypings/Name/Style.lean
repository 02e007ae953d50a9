import SchemaTypings.Name.Words
import SchemaTypings.Text.Blank

/-!
# Name styles

The styles in which a name can be spelled, how a style is named in options, and the spelling of a
name in each of them.
-/

namespace SchemaTypings

inductive NameStyle where
  | keep
  | pascal
  | camel
  | constant
  | snake
  | kebab
  | lower
  | upper
  deriving DecidableEq, Repr, Inhabited

namespace NameStyle

def all : List NameStyle := [keep, pascal, camel, constant, snake, kebab, lower, upper]

def label : NameStyle → String
  | keep => "keep"
  | pascal => "pascal"
  | camel => "camel"
  | constant => "constant"
  | snake => "snake"
  | kebab => "kebab"
  | lower => "lower"
  | upper => "upper"

/-! ## Reading a style -/

/-- The accepted spellings, in small letters and without separators. -/
def spellings : List (String × NameStyle) :=
  [("keep", keep), ("pascal", pascal), ("pascalcase", pascal), ("camel", camel),
   ("camelcase", camel), ("constant", constant), ("constantcase", constant),
   ("screamingsnake", constant), ("snake", snake), ("snakecase", snake), ("kebab", kebab),
   ("kebabcase", kebab), ("param", kebab), ("paramcase", kebab), ("lower", lower),
   ("lowercase", lower), ("upper", upper), ("uppercase", upper)]

/-- The small ASCII letters of what follows the last `#`, once all is in small letters. -/
def spellingKey (text : String) : String :=
  let named :=
    match Text.cutLast '#' text.toList with
    | some (_, name) => name
    | none => text.toList
  String.ofList ((Text.lower named).filter Name.isLower)

/-- A style may stand behind a module path and `#`; separators and letter case do not matter. -/
def ofText? (text : String) : Option NameStyle := spellings.lookup (spellingKey text)

/-! ## Spelling a name -/

/-- A capital, then small letters. -/
def capitalized : List Char → List Char
  | [] => []
  | c :: rest => Text.asciiUpper c :: rest.map Text.asciiLower

/-- A word after the first that begins with a digit keeps an underscore before it. -/
def laterWord : List Char → List Char
  | [] => []
  | c :: rest =>
    if Name.isDigit c then '_' :: capitalized (c :: rest) else capitalized (c :: rest)

def pascalWords : List (List Char) → List Char
  | [] => []
  | first :: rest => capitalized first ++ rest.flatMap laterWord

def camelWords : List (List Char) → List Char
  | [] => []
  | first :: rest => first.map Text.asciiLower ++ rest.flatMap laterWord

def lowerWords (sep : Char) (words : List (List Char)) : List Char :=
  Text.join [sep] (words.map (·.map Text.asciiLower))

def upperWords (sep : Char) (words : List (List Char)) : List Char :=
  Text.join [sep] (words.map (·.map Text.asciiUpper))

/-- A whole name in a style; `lower` and `upper` know every letter, the others ASCII words. -/
def convert (style : NameStyle) (name : List Char) : List Char :=
  match style with
  | keep => name
  | pascal => pascalWords (Name.words name)
  | camel => camelWords (Name.words name)
  | constant => upperWords '_' (Name.words name)
  | snake => lowerWords '_' (Name.words name)
  | kebab => lowerWords '-' (Name.words name)
  | lower => Text.lower name
  | upper => Text.upper name

/-- A name in a style. Its parts between underscores are converted each on its own, unless
`dropUnderscores` makes the underscores ordinary word boundaries. -/
def convertParts (style : NameStyle) (name : List Char) (dropUnderscores : Bool) : List Char :=
  match style with
  | keep => name
  | style =>
    if dropUnderscores then style.convert name
    else Text.join ['_'] ((Text.cut '_' name).map style.convert)

def apply (style : NameStyle) (name : String) : String := String.ofList (style.convert name.toList)

def applyParts (style : NameStyle) (name : String) (dropUnderscores : Bool) : String :=
  String.ofList (style.convertParts name.toList dropUnderscores)

end NameStyle

namespace Name

/-! ## Identifiers -/

def isIdentifierStart (c : Char) : Bool := isLower c || isUpper c || c = '_' || c = '$'

def isIdentifierPart (c : Char) : Bool := isIdentifierStart c || isDigit c

/-- One line end after the identifier is overlooked. -/
def isIdentifier : List Char → Bool
  | [] => false
  | c :: rest =>
    let body := if rest.getLast? = some '\n' then rest.dropLast else rest
    isIdentifierStart c && body.all isIdentifierPart

end Name

end SchemaTypings
