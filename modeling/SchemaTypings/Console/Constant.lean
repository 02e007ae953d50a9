import SchemaTypings.Json.Reader
import SchemaTypings.Text.Blank

/-!
# Constants in tags

The parameters of a tag may have to be a constant: a number, a text, a truth value, or a group of
constants. Here is which texts are constants; what they stand for is of no use to a line.
-/

namespace SchemaTypings.Console

open SchemaTypings.Json (hexValue?)

/-! ## Tokens -/

inductive ConstantToken where
  | mark (c : Char)
  /-- A number; an imaginary one ends in `j`. -/
  | number (imaginary : Bool)
  /-- A quoted text, of characters or of bytes. -/
  | text (bytes : Bool)
  | word (s : String)
  deriving DecidableEq, Repr

def isWordStart (c : Char) : Bool := c.isAlpha || c = '_'

def isWordPart (c : Char) : Bool := c.isAlphanum || c = '_'

/-- Digits, with single underscores between them, and the rest. -/
def digitGroups? (isDigit : Char → Bool) (cs : List Char) : Option (List Char × List Char) :=
  let run := cs.takeWhile fun c => isDigit c || c = '_'
  let groups := Text.cut '_' run
  if groups.any List.isEmpty then none else some (groups.flatten, cs.drop run.length)

/-- The rest after an exponent, if there is one. -/
def afterExponent? (cs : List Char) : Option (List Char) :=
  match cs with
  | e :: rest =>
    if e ≠ 'e' ∧ e ≠ 'E' then none
    else
      let digits :=
        match rest with
        | '+' :: digits | '-' :: digits => digits
        | digits => digits
      (digitGroups? Char.isDigit digits).map (·.2)
  | [] => none

/-- The digits of a whole number in another base, after its two opening characters. -/
def basedNumber? (cs : List Char) : Option (List Char) :=
  match cs with
  | '0' :: b :: rest =>
    let digits :=
      match rest with
      | '_' :: digits => digits
      | digits => digits
    let read (isDigit : Char → Bool) : Option (List Char) :=
      (digitGroups? isDigit digits).map (·.2)
    match b.toLower with
    | 'x' => read fun c => (hexValue? c).isSome
    | 'o' => read fun c => '0' ≤ c && c ≤ '7'
    | 'b' => read fun c => c = '0' || c = '1'
    | _ => none
  | _ => none

/-- A number and the rest. Whole numbers have no leading zeros and no more digits than numbers can. -/
def numberToken? (cs : List Char) : Option (ConstantToken × List Char) := do
  if let some rest := basedNumber? cs then return (.number false, rest)
  let (whole, rest) := (digitGroups? Char.isDigit cs).getD ([], cs)
  let (hasPoint, fraction, rest) : Bool × List Char × List Char :=
    match rest with
    | '.' :: after =>
      match digitGroups? Char.isDigit after with
      | some (digits, rest) => (true, digits, rest)
      | none => (true, [], after)
    | rest => (false, [], rest)
  if whole.isEmpty && fraction.isEmpty then none
  else
    let (hasExponent, rest) :=
      match afterExponent? rest with
      | some rest => (true, rest)
      | none => (false, rest)
    match rest with
    | j :: rest' =>
      if j = 'j' || j = 'J' then return (.number true, rest')
    | [] => pure ()
    let plain := !hasPoint && !hasExponent
    if plain && whole.any (· != '0') &&
      (whole.head? = some '0' || Value.maxDigits < whole.length) then none
    else return (.number false, rest)

/-- What is left after an escape whose backslash is read. In texts of characters, numbers of
characters have all their digits and stay in range. -/
def afterEscape? (bytes : Bool) (cs : List Char) : Option (List Char) :=
  let digits (count : Nat) (rest : List Char) : Option (List Char) :=
    let code := rest.take count
    if code.length = count && code.all fun c => (hexValue? c).isSome then some (rest.drop count)
    else none
  match cs with
  | 'x' :: rest => digits 2 rest
  | 'u' :: rest => if bytes then some rest else digits 4 rest
  | 'U' :: rest =>
    if bytes then some rest
    else
      match rest with
      | '0' :: '0' :: '0' :: _ => digits 8 rest
      | '0' :: '0' :: '1' :: '0' :: _ => digits 8 rest
      | _ => none
  | 'N' :: rest => if bytes then some rest else none
  | _ :: rest => some rest
  | [] => none

/-- The rest after a quoted text of the kind that its opening tells. -/
def afterQuoted? (raw bytes : Bool) (closing : List Char) : Nat → List Char → Option (List Char)
  | 0, _ => none
  | rounds + 1, cs =>
    if closing.isPrefixOf cs then some (cs.drop closing.length)
    else
      match cs with
      | [] => none
      | '\\' :: rest =>
        match (if raw then some (rest.drop 1) else afterEscape? bytes rest) with
        | some rest => afterQuoted? raw bytes closing rounds rest
        | none => none
      | c :: rest =>
        if (c = '\n' && closing.length = 1) || (bytes && 127 < c.toNat) then none
        else afterQuoted? raw bytes closing rounds rest

/-- The openings of quoted texts: whether they are raw, and whether they are bytes. -/
def quotedOpenings : List (String × Bool × Bool) :=
  [("", false, false), ("u", false, false), ("r", true, false), ("b", false, true),
   ("br", true, true), ("rb", true, true)]

def textToken? (opening cs : List Char) : Option (ConstantToken × List Char) := do
  let (raw, bytes) ← quotedOpenings.lookup (String.ofList (opening.map Char.toLower))
  let rest ←
    match cs with
    | '"' :: '"' :: '"' :: rest => afterQuoted? raw bytes ['"', '"', '"'] (cs.length + 1) rest
    | '\'' :: '\'' :: '\'' :: rest =>
      afterQuoted? raw bytes ['\'', '\'', '\''] (cs.length + 1) rest
    | '"' :: rest => afterQuoted? raw bytes ['"'] (cs.length + 1) rest
    | '\'' :: rest => afterQuoted? raw bytes ['\''] (cs.length + 1) rest
    | _ => none
  return (.text bytes, rest)

/-- How many groups may be open at once. -/
def deepestGroup : Nat := 200

/-- The tokens of a text, at most `rounds` of them. `depth` counts the groups that are open; a line may
end only inside one. -/
def constantTokens (depth : Nat) : Nat → List Char → Option (List ConstantToken)
  | 0, _ => none
  | _, [] => some []
  | rounds + 1, c :: rest =>
    if c = ' ' || c = '\t' || c = '\x0c' || (c = '\n' && 0 < depth) then
      constantTokens depth rounds rest
    else if c = '#' then constantTokens depth rounds (rest.dropWhile (· != '\n'))
    else if c = '(' || c = '\x7b' then
      if depth = deepestGroup then none
      else (constantTokens (depth + 1) rounds rest).map (.mark c :: ·)
    else if c = ')' || c = '\x7d' then
      (constantTokens (depth - 1) rounds rest).map (.mark c :: ·)
    else if [',', ':', '+', '-'].contains c then
      (constantTokens depth rounds rest).map (.mark c :: ·)
    else
      let next : Option (ConstantToken × List Char) :=
        if ['.', '.', '.'].isPrefixOf (c :: rest) then some (.word "...", rest.drop 2)
        else if c.isDigit || c = '.' then numberToken? (c :: rest)
        else if c = '"' || c = '\'' then textToken? [] (c :: rest)
        else if isWordStart c then
          let word := c :: rest.takeWhile isWordPart
          let after := rest.dropWhile isWordPart
          match after with
          | '"' :: _ | '\'' :: _ => textToken? word after
          | _ => some (.word (String.ofList word), after)
        else none
      match next with
      | some (token, rest) => (constantTokens depth rounds rest).map (token :: ·)
      | none => none

/-! ## Groups -/

/-- What a constant can be part of. -/
inductive ConstantKind where
  | real
  | imaginary
  /-- A real number with a sign. -/
  | signed
  | plain
  /-- A group that can change, and so is no member of a set and no key. -/
  | changing
  deriving DecidableEq, Repr

/-- The tokens after the texts that directly follow each other; all are of one kind. -/
def afterTexts? (bytes : Bool) : List ConstantToken → Option (List ConstantToken)
  | .text other :: rest => if other = bytes then afterTexts? bytes rest else none
  | rest => some rest

def groupKind (items : List ConstantKind) : ConstantKind :=
  if items.contains .changing then .changing else .plain

mutual

/-- A constant and the tokens after it. -/
def constant? : Nat → List ConstantToken → Option (ConstantKind × List ConstantToken)
  | 0, _ => none
  | fuel + 1, tokens => do
    let (first, rest) ← signed? fuel tokens
    match rest with
    | .mark s :: more =>
      if s = '+' || s = '-' then
        let (second, rest) ← single? fuel more
        if (first = .real || first = .signed) && second = .imaginary then sum? rest else none
      else return (first, rest)
    | rest => return (first, rest)
where
  /-- A sum ends after its imaginary part. -/
  sum? : List ConstantToken → Option (ConstantKind × List ConstantToken)
    | .mark '+' :: _ | .mark '-' :: _ => none
    | rest => some (.plain, rest)

/-- A constant with at most one sign. -/
def signed? : Nat → List ConstantToken → Option (ConstantKind × List ConstantToken)
  | 0, _ => none
  | fuel + 1, tokens =>
    match tokens with
    | .mark '+' :: rest | .mark '-' :: rest => do
      let (kind, rest) ← single? fuel rest
      match kind with
      | .real => return (.signed, rest)
      | .imaginary => return (.plain, rest)
      | _ => none
    | tokens => single? fuel tokens

/-- A constant that is no sum and has no sign. -/
def single? : Nat → List ConstantToken → Option (ConstantKind × List ConstantToken)
  | 0, _ => none
  | fuel + 1, tokens =>
    match tokens with
    | .number imaginary :: rest => some (if imaginary then .imaginary else .real, rest)
    | .text bytes :: rest => (afterTexts? bytes rest).map fun rest => (.plain, rest)
    | .word "set" :: .mark '(' :: .mark ')' :: rest => some (.changing, rest)
    | .word s :: rest =>
      if ["True", "False", "None", "..."].contains s then some (.plain, rest) else none
    | .mark '(' :: .mark ')' :: rest => some (.plain, rest)
    | .mark '(' :: rest => do
      let (first, rest) ← constant? fuel rest
      match rest with
      | .mark ')' :: rest => return (first, rest)
      | .mark ',' :: rest =>
        let (items, rest) ← items? ')' fuel rest
        return (groupKind (first :: items), rest)
      | _ => none
    | .mark '\x7b' :: .mark '\x7d' :: rest => some (.changing, rest)
    | .mark '\x7b' :: rest => do
      let (first, rest) ← constant? fuel rest
      if first = .changing then none
      else
        match rest with
        | .mark ':' :: rest =>
          let (_, rest) ← constant? fuel rest
          match rest with
          | .mark '\x7d' :: rest => return (.changing, rest)
          | .mark ',' :: rest => return (.changing, ← pairs? fuel rest)
          | _ => none
        | .mark '\x7d' :: rest => return (.changing, rest)
        | .mark ',' :: rest =>
          let (items, rest) ← items? '\x7d' fuel rest
          if items.contains .changing then none else return (.changing, rest)
        | _ => none
    | _ => none

/-- Constants up to a closing mark; a comma may stand before it. -/
def items? (closing : Char) : Nat → List ConstantToken →
    Option (List ConstantKind × List ConstantToken)
  | 0, _ => none
  | fuel + 1, tokens => do
    if tokens.head? = some (.mark closing) then return ([], tokens.tail)
    let (first, rest) ← constant? fuel tokens
    match rest with
    | .mark ',' :: rest =>
      let (items, rest) ← items? closing fuel rest
      return (first :: items, rest)
    | .mark c :: rest => if c = closing then return ([first], rest) else none
    | _ => none

/-- Pairs of constants up to a closing brace. -/
def pairs? : Nat → List ConstantToken → Option (List ConstantToken)
  | 0, _ => none
  | fuel + 1, tokens => do
    if tokens.head? = some (.mark '\x7d') then return tokens.tail
    let (key, rest) ← constant? fuel tokens
    match rest with
    | .mark ':' :: rest =>
      let (_, rest) ← constant? fuel rest
      if key = .changing then none
      else
        match rest with
        | .mark ',' :: rest => pairs? fuel rest
        | .mark '\x7d' :: rest => return rest
        | _ => none
    | _ => none

end

/-- Whether a text is a constant, or constants with commas between them. -/
def isConstant (cs : List Char) : Bool :=
  match constantTokens 0 (cs.length + 1) cs with
  | none => false
  | some tokens =>
    let closed := .mark '(' :: tokens ++ [.mark ')']
    !tokens.isEmpty &&
      match single? (4 * closed.length + 4) closed with
      | some (_, []) => true
      | _ => false

end SchemaTypings.Console
