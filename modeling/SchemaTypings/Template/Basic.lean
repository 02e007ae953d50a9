import SchemaTypings.Code.Comment
import SchemaTypings.Value.Text

/-!
# Templates

Text with places for variables, which may pass through filters before they are written: a place is
written in double braces, a filter after a bar. A place may also hold a constant or ask for the template
itself. One newline at the end of a template does not count.
-/

namespace SchemaTypings

inductive TemplateFilter where
  | comment
  | indent (spaces : Nat)
  deriving DecidableEq, Repr

inductive TemplatePart where
  | literal (text : String)
  | slot (key : String) (filters : List TemplateFilter)
  deriving DecidableEq, Repr

abbrev Template := List TemplatePart

inductive TemplateError where
  | notFound (name : String)
  | undefined (template key : String)
  /-- A value is given under the name by which a template asks for itself. -/
  | givenSelf (template : String)
  | malformed (template reason : String)

def TemplateError.message : TemplateError → String
  | notFound name => "Template not found: " ++ name
  | undefined template key => failed template ++ "'" ++ key ++ "' is undefined"
  | givenSelf template =>
    failed template ++ "Template.render() got multiple values for argument 'self'"
  | malformed template reason => failed template ++ reason
where
  failed (template : String) : String := "Failed to render template " ++ template ++ ": "

/-! ## Reading -/

namespace TemplateFilter

/-- A number; a negative one counts as zero. -/
def number? (cs : List Char) : Option Nat :=
  let (negative, digits) := match cs with
    | '-' :: digits => (true, Text.trim digits)
    | digits => (false, digits)
  if digits.isEmpty || !digits.all Char.isDigit then none
  else some (if negative then 0 else digits.foldl (fun n c => 10 * n + (c.toNat - 48)) 0)

/-- What stands between the brackets after a filter's name; nothing if there are no brackets. -/
def argument? (cs : List Char) : Option (List Char) :=
  match Text.trim cs with
  | [] => some []
  | '(' :: rest =>
    match rest.reverse with
    | ')' :: body => some (Text.trim body.reverse)
    | _ => none
  | _ => none

def ofChars? (cs : List Char) : Option TemplateFilter := do
  let (name, rest) := (Text.trim cs).span fun c => c != '(' && !Text.isBlank c
  let argument ← argument? rest
  if name = "jsdoc".toList then
    if argument.isEmpty then some .comment else none
  else if name = "indent".toList then
    if argument.isEmpty then some (.indent 2) else (number? argument).map .indent
  else none

end TemplateFilter

namespace Template

/-- The words for constants, which no variable can replace. -/
def constants : List (String × Value) :=
  [("true", .bool true), ("True", .bool true), ("false", .bool false), ("False", .bool false),
   ("none", .null), ("None", .null)]

/-- The names that stand for something even if nothing is given for them. -/
def standing : List (String × Value) :=
  [("range", .text "<class 'range'>"), ("dict", .text "<class 'dict'>"),
   ("cycler", .text "<class 'jinja2.utils.Cycler'>"),
   ("joiner", .text "<class 'jinja2.utils.Joiner'>"),
   ("namespace", .text "<class 'jinja2.utils.Namespace'>")]

/-- The name by which a template asks for itself. -/
def selfName : String := "self"

def isVariableChar (c : Char) : Bool := c.isAlphanum || c = '_' || c.toNat > 127

/-- What is wrong with a place that names nothing. The word for a negation is no name, and after it
something has to follow. -/
def emptyReason (key : List Char) (filtered : Bool) : String :=
  if filtered then "unexpected '|'"
  else if key.isEmpty then "Expected an expression, got 'end of print statement'"
  else "unexpected 'end of print statement'"

/-- What stands between the braces of a place. -/
def slot (cs : List Char) : Except String TemplatePart :=
  let pieces := Text.cut '|' cs
  let key := Text.trim (pieces.headD [])
  if key.isEmpty || key = "not".toList then .error (emptyReason key (1 < pieces.length))
  else
    match pieces.tail.mapM TemplateFilter.ofChars? with
    | some filters =>
      if key.all isVariableChar then .ok (.slot (String.ofList key) filters)
      else .error "malformed expression"
    | none => .error "malformed filter"

/-- Every kind of line end as a newline. -/
def plainNewlines : List Char → List Char
  | '\r' :: '\n' :: rest => '\n' :: plainNewlines rest
  | '\r' :: rest => '\n' :: plainNewlines rest
  | c :: rest => c :: plainNewlines rest
  | [] => []

def dropLastNewline (cs : List Char) : List Char :=
  match cs.reverse with
  | '\n' :: front => front.reverse
  | _ => cs

/-- The parts of a text, with at most `rounds` places. -/
def partsFrom : Nat → List Char → Except String Template
  | 0, cs => .ok [.literal (String.ofList cs)]
  | rounds + 1, cs =>
    match Text.cutFirst ['\x7b', '\x7b'] cs with
    | none => .ok [.literal (String.ofList cs)]
    | some (before, rest) =>
      match Text.cutFirst ['\x7d', '\x7d'] rest with
      | none => .error "unexpected end of template, expected 'end of print statement'."
      | some (inner, after) => do
        let place ← slot inner
        return .literal (String.ofList before) :: place :: (← partsFrom rounds after)

def ofString (s : String) : Except String Template :=
  let cs := dropLastNewline (plainNewlines s.toList)
  partsFrom cs.length cs

/-! ## Writing -/

/-- A false value makes no comment. -/
def applyFilter (v : Value) : TemplateFilter → Value
  | .comment => .text (if v.truthy then Code.comment v.display else "")
  | .indent spaces => .text (Code.indent spaces v.display)

/-- What a template is called where it asks for itself. -/
def reference (name : Option String) : String :=
  "<TemplateReference " ++ (name.elim .null Value.text).inner ++ ">"

/-- What a name in a place stands for in the template of a name. -/
def valueOf? (name : Option String) (context : Table String Value) (key : String) :
    Option Value :=
  if key = selfName then some (.text (reference name))
  else (constants.lookup key).or ((Table.get? context key).or (standing.lookup key))

def writePart (name : Option String) (context : Table String Value) :
    TemplatePart → Except String String
  | .literal text => .ok text
  | .slot key filters =>
    match valueOf? name context key with
    | some v => .ok (filters.foldl applyFilter v).display
    | none => .error key

/-- The text of a template; fails with the first variable that has no value. -/
def write (t : Template) (name : Option String) (context : Table String Value) :
    Except String String :=
  (t.mapM (writePart name context)).map String.join

/-- Renders the source of a template with or without a name. -/
def render (name : Option String) (source : String) (context : Table String Value) :
    Except TemplateError String := do
  let called := name.getD "string"
  let t ← (ofString source).mapError (.malformed called)
  if Table.has context selfName then throw (.givenSelf called)
  (t.write name context).mapError (.undefined called)

end Template

/-- Templates by name. -/
abbrev TemplateStore := Table String String

namespace TemplateStore

def render (s : TemplateStore) (name : String) (context : Table String Value) :
    Except TemplateError String :=
  match Table.get? s name with
  | some source => Template.render (some name) source context
  | none => .error (.notFound name)

/-- Renders a text that has no name. -/
def renderText (source : String) (context : Table String Value) : Except TemplateError String :=
  Template.render none source context

end TemplateStore

end SchemaTypings
