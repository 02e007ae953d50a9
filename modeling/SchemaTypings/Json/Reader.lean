import SchemaTypings.Value.Limit

/-!
# Reading JSON

A reader over the characters of a text. Numbers with a point or an exponent are binary numbers and
all others are integers of any size; objects keep the order of their keys, and a repeated key keeps
its first place and takes its last value. The names of the numbers that are none are accepted. An
integer has at most `Value.maxDigits` digits, and lists and objects stand inside each other only as far
as there is room.
-/

namespace SchemaTypings.Json

open SchemaTypings (Value Binary64 Table Room)

/-- Why a text is no JSON. -/
inductive Fault where
  | ended
  | unexpected (c : Char)
  | control (c : Char)
  | badEscape
  | trailing
  /-- An integer with too many digits, whatever is wrong after it. -/
  | tooManyDigits (count : Nat)
  /-- Too many lists and objects inside each other, whatever is wrong further on. -/
  | tooManyLevels
  deriving DecidableEq, Repr

def Fault.message : Fault → String
  | ended => "the text ends too early"
  | unexpected c => "unexpected character " ++ String.ofList [c]
  | control _ => "a control character stands in a string"
  | badEscape => "unknown escape in a string"
  | trailing => "text after the value"
  | tooManyDigits count =>
    "Exceeds the limit (" ++ toString Value.maxDigits ++ " digits) for integer string conversion: " ++
      "value has " ++ toString count ++ " digits; use sys.set_int_max_str_digits() to increase " ++
      "the limit"
  | tooManyLevels => "too many levels"

def isSpace (c : Char) : Bool := c = ' ' || c = '\t' || c = '\n' || c = '\r'

def skipSpace (cs : List Char) : List Char := cs.dropWhile isSpace

/-! ## Strings -/

def hexValue? (c : Char) : Option Nat :=
  let n := c.toNat
  if 48 ≤ n ∧ n ≤ 57 then some (n - 48)
  else if 97 ≤ n ∧ n ≤ 102 then some (n - 87)
  else if 65 ≤ n ∧ n ≤ 70 then some (n - 55)
  else none

def readHex4? : List Char → Option (Nat × List Char)
  | a :: b :: c :: d :: rest => do
    let a ← hexValue? a
    let b ← hexValue? b
    let c ← hexValue? c
    let d ← hexValue? d
    return (((a * 16 + b) * 16 + c) * 16 + d, rest)
  | _ => none

def isHighSurrogate (n : Nat) : Bool := 0xD800 ≤ n && n ≤ 0xDBFF

def isLowSurrogate (n : Nat) : Bool := 0xDC00 ≤ n && n ≤ 0xDFFF

/-- A code point, or the replacement character where a surrogate stands alone. -/
def charOf (n : Nat) : Char := if n.isValidChar then Char.ofNat n else '\uFFFD'

/-- The character of a four-digit escape, joined with a second escape if the two are a pair. -/
def readUnicode (cs : List Char) : Except Fault (Char × List Char) :=
  match readHex4? cs with
  | none => .error .badEscape
  | some (high, rest) =>
    if isHighSurrogate high then
      match rest with
      | '\\' :: 'u' :: more =>
        match readHex4? more with
        | some (low, after) =>
          if isLowSurrogate low then
            .ok (charOf (0x10000 + (high - 0xD800) * 0x400 + (low - 0xDC00)), after)
          else .ok (charOf high, rest)
        | none => .ok (charOf high, rest)
      | _ => .ok (charOf high, rest)
    else .ok (charOf high, rest)

def simpleEscape? : Char → Option Char
  | '"' => some '"'
  | '\\' => some '\\'
  | '/' => some '/'
  | 'b' => some '\x08'
  | 'f' => some '\x0c'
  | 'n' => some '\n'
  | 'r' => some '\r'
  | 't' => some '\t'
  | _ => none

/-- The rest of a string after its opening quote; `read` holds the characters so far, last first. -/
def readString (read : List Char) : Nat → List Char → Except Fault (List Char × List Char)
  | 0, _ => .error .ended
  | _, [] => .error .ended
  | _ + 1, '"' :: rest => .ok (read.reverse, rest)
  | fuel + 1, '\\' :: 'u' :: rest =>
    match readUnicode rest with
    | .error fault => .error fault
    | .ok (c, rest) => readString (c :: read) fuel rest
  | fuel + 1, '\\' :: e :: rest =>
    match simpleEscape? e with
    | none => .error .badEscape
    | some c => readString (c :: read) fuel rest
  | fuel + 1, c :: rest =>
    if c.toNat < 0x20 then .error (.control c) else readString (c :: read) fuel rest

/-! ## Numbers -/

def isDigit (c : Char) : Bool := '0' ≤ c && c ≤ '9'

/-- The value of a run of decimal digits. -/
def digitsValue (cs : List Char) : Nat := cs.foldl (fun n c => n * 10 + (c.toNat - 48)) 0

/-- A zero, or digits that begin with none. -/
def readWhole? : List Char → Option (List Char × List Char)
  | '0' :: rest => some (['0'], rest)
  | c :: rest =>
    if isDigit c then some (c :: rest.takeWhile isDigit, rest.dropWhile isDigit) else none
  | [] => none

/-- The digits after a point, if a point with digits follows. -/
def readFraction? : List Char → Option (List Char × List Char)
  | '.' :: rest =>
    let digits := rest.takeWhile isDigit
    if digits.isEmpty then none else some (digits, rest.dropWhile isDigit)
  | _ => none

/-- The power after an exponent mark, if the mark is followed by digits. -/
def readPower? : List Char → Option (Int × List Char)
  | c :: rest =>
    if c = 'e' || c = 'E' then
      let (negative, rest) : Bool × List Char :=
        match rest with
        | '-' :: more => (true, more)
        | '+' :: more => (false, more)
        | _ => (false, rest)
      let digits := rest.takeWhile isDigit
      if digits.isEmpty then none
      else
        let n : Int := digitsValue digits
        some (if negative then -n else n, rest.dropWhile isDigit)
    else none
  | [] => none

/-- A number after its sign. -/
def readNumber (negative : Bool) (cs : List Char) : Except Fault (Value × List Char) :=
  match readWhole? cs with
  | none =>
    match cs with
    | [] => .error .ended
    | c :: _ => .error (.unexpected c)
  | some (whole, rest) =>
    let (fraction, afterFraction) := (readFraction? rest).getD ([], rest)
    let (power, afterPower) := (readPower? afterFraction).getD (0, afterFraction)
    if fraction.isEmpty && (readPower? afterFraction).isNone then
      if Value.maxDigits < whole.length then .error (.tooManyDigits whole.length)
      else
        let n : Int := digitsValue whole
        .ok (.int (if negative then -n else n), rest)
    else
      .ok (.float (Binary64.ofDecimal negative (digitsValue (whole ++ fraction))
        (power - fraction.length)), afterPower)

/-! ## Values -/

/-- The rest after a literal word. -/
def readWord (word : List Char) (v : Value) (cs : List Char) : Except Fault (Value × List Char) :=
  if word.isPrefixOf cs then .ok (v, cs.drop word.length)
  else
    match cs with
    | [] => .error .ended
    | c :: _ => .error (.unexpected c)

mutual

/-- A value at the first character, with as many levels as are left; the fuel bounds the number of
steps. -/
def readValue (levels : Nat) : Nat → List Char → Except Fault (Value × List Char)
  | 0, _ => .error .ended
  | _, [] => .error .ended
  | fuel + 1, '"' :: rest => do
    let (cs, rest) ← readString [] (fuel + 1) rest
    return (.text (String.ofList cs), rest)
  | fuel + 1, '\x7b' :: rest =>
    match levels, skipSpace rest with
    | 0, _ => .error .tooManyLevels
    | _ + 1, '\x7d' :: rest => .ok (.object [], rest)
    | levels + 1, rest => do
      let (fields, rest) ← readFields levels fuel rest
      return (.object (Table.ofPairs fields), rest)
  | fuel + 1, '[' :: rest =>
    match levels, skipSpace rest with
    | 0, _ => .error .tooManyLevels
    | _ + 1, ']' :: rest => .ok (.list [], rest)
    | levels + 1, rest => do
      let (items, rest) ← readItems levels fuel rest
      return (.list items, rest)
  | _ + 1, '-' :: 'I' :: rest => readWord "Infinity".toList (.float (.infinite true)) ('I' :: rest)
  | _ + 1, '-' :: rest => readNumber true rest
  | _ + 1, c :: rest =>
    if c = 'n' then readWord "null".toList .null (c :: rest)
    else if c = 't' then readWord "true".toList (.bool true) (c :: rest)
    else if c = 'f' then readWord "false".toList (.bool false) (c :: rest)
    else if c = 'N' then readWord "NaN".toList (.float .nan) (c :: rest)
    else if c = 'I' then readWord "Infinity".toList (.float (.infinite false)) (c :: rest)
    else readNumber false (c :: rest)

/-- The items of a list up to its closing bracket, the first of them at hand. -/
def readItems (levels : Nat) : Nat → List Char → Except Fault (List Value × List Char)
  | 0, _ => .error .ended
  | fuel + 1, cs => do
    let (v, rest) ← readValue levels fuel cs
    match skipSpace rest with
    | ']' :: rest => return ([v], rest)
    | ',' :: rest => do
      let (items, rest) ← readItems levels fuel (skipSpace rest)
      return (v :: items, rest)
    | c :: _ => throw (.unexpected c)
    | [] => throw .ended

/-- The fields of an object up to its closing brace, the first of them at hand. -/
def readFields (levels : Nat) : Nat → List Char → Except Fault (List (String × Value) × List Char)
  | 0, _ => .error .ended
  | fuel + 1, '"' :: cs => do
    let (key, rest) ← readString [] (fuel + 1) cs
    match skipSpace rest with
    | ':' :: rest =>
      let (v, rest) ← readValue levels fuel (skipSpace rest)
      match skipSpace rest with
      | '\x7d' :: rest => return ([(String.ofList key, v)], rest)
      | ',' :: rest => do
        let (fields, rest) ← readFields levels fuel (skipSpace rest)
        return ((String.ofList key, v) :: fields, rest)
      | c :: _ => throw (.unexpected c)
      | [] => throw .ended
    | c :: _ => throw (.unexpected c)
    | [] => throw .ended
  | _ + 1, c :: _ => .error (.unexpected c)
  | _ + 1, [] => .error .ended

end

/-- The value of a whole text; blanks may stand around it. -/
def read (s : String) (room : Room := .ample) : Except Fault Value := do
  let cs := skipSpace s.toList
  let (v, rest) ← readValue room.read (2 * cs.length + 2) cs
  if (skipSpace rest).isEmpty then return v else throw .trailing

end SchemaTypings.Json
