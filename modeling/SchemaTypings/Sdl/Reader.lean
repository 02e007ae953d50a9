import SchemaTypings.Sdl.Document
import SchemaTypings.Sdl.Token

/-!
# Reading documents

The grammar of the schema language over tokens. Loops are bounded by the number of tokens at hand,
since each round takes one at least.
-/

namespace SchemaTypings.Sdl

/-- Reads something off the front of the tokens. -/
abbrev Read (α : Type) := StateT (List Token) (Except SyntaxFault) α

namespace Read

def peek? : Read (Option Token) := return (← get).head?

def fail {α : Type} : Read α := do
  match ← peek? with
  | some t => throw (.unexpected t)
  | none => throw .ended

def skip : Read Unit := modify List.tail

/-- More rounds than any loop over the tokens at hand can take. -/
def rounds : Read Nat := return (← get).length + 1

def sees (t : Token) : Read Bool := return (← peek?) = some t

def expect (t : Token) : Read Unit := do
  if ← sees t then skip else fail

/-- Takes a token if it comes next. -/
def optional (t : Token) : Read Bool := do
  if ← sees t then
    skip
    return true
  else return false

def name : Read String := do
  match ← peek? with
  | some (.name s) => do
    skip
    return s
  | _ => fail

def keyword (word : String) : Read Unit := expect (.name word)

/-! ## Repetition -/

/-- Items up to the closing mark, which is taken too. -/
def untilClose {α : Type} (close : Char) (item : Read α) : Nat → Read (List α)
  | 0 => fail
  | fuel + 1 => do
    if ← optional (.mark close) then return []
    else
      let first ← item
      return first :: (← untilClose close item fuel)

/-- Items between marks, any number of them. -/
def any {α : Type} (opening close : Char) (item : Read α) : Read (List α) := do
  expect (.mark opening)
  untilClose close item (← rounds)

/-- Items between marks, one at least. -/
def many {α : Type} (opening close : Char) (item : Read α) : Read (List α) := do
  expect (.mark opening)
  let first ← item
  return first :: (← untilClose close item (← rounds))

/-- Nothing, or items between marks, one at least. -/
def optionalMany {α : Type} (opening close : Char) (item : Read α) : Read (List α) := do
  if ← sees (.mark opening) then many opening close item else return []

def separatedRest {α : Type} (sep : Char) (item : Read α) : Nat → Read (List α)
  | 0 => fail
  | fuel + 1 => do
    if ← optional (.mark sep) then
      let next ← item
      return next :: (← separatedRest sep item fuel)
    else return []

/-- Items with a mark between them and, if one likes, before the first. -/
def separated {α : Type} (sep : Char) (item : Read α) : Read (List α) := do
  let _ ← optional (.mark sep)
  let first ← item
  return first :: (← separatedRest sep item (← rounds))

/-! ## Values, types and directives -/

/-- A value that holds no others; `const` forbids variables. -/
def plainValue (const : Bool) : Read Const := do
  match ← peek? with
  | some (.int s) => do
    skip
    return .int s
  | some (.float s) => do
    skip
    return .float s
  | some (.text s) => do
    skip
    return .text s
  | some (.name "true") => do
    skip
    return .bool true
  | some (.name "false") => do
    skip
    return .bool false
  | some (.name "null") => do
    skip
    return .null
  | some (.name s) => do
    skip
    return .enum s
  | some (.mark '$') =>
    if const then fail
    else
      skip
      return .variable (← name)
  | _ => fail

/-- How many levels of lists, objects and selections may be nested in each other. -/
def deepest : Nat := 200

/-- A value with as many levels of lists and objects as are left. -/
def value (const : Bool) : Nat → Read Const
  | 0 => do
    if (← sees (.mark '[')) || (← sees (.mark '\x7b')) then throw .tooDeep
    else plainValue const
  | levels + 1 => do
    if ← sees (.mark '[') then return .list (← any '[' ']' (value const levels))
    else if ← sees (.mark '\x7b') then
      return .object (← any '\x7b' '\x7d' do
        let key ← name
        expect (.mark ':')
        return (key, ← value const levels))
    else plainValue const

def default? : Read (Option Const) := do
  if ← optional (.mark '=') then some <$> value true deepest else return none

/-- A type with as many levels of lists as are left. -/
def typeRefFrom : Nat → Read TypeRef
  | 0 => do
    if ← sees (.mark '[') then throw .tooDeep
    else
      let name ← name
      return .named (!(← optional (.mark '!'))) name
  | levels + 1 => do
    if ← optional (.mark '[') then
      let item ← typeRefFrom levels
      expect (.mark ']')
      return .list (!(← optional (.mark '!'))) item
    else
      let name ← name
      return .named (!(← optional (.mark '!'))) name

def typeRef : Read TypeRef := typeRefFrom deepest

def argument (const : Bool) (levels : Nat) : Read (String × Const) := do
  let key ← name
  expect (.mark ':')
  return (key, ← value const levels)

def arguments (const : Bool) (levels : Nat) : Read (List (String × Const)) :=
  optionalMany '(' ')' (argument const levels)

def directivesFrom (const : Bool) (levels : Nat) : Nat → Read (List DirectiveUse)
  | 0 => fail
  | fuel + 1 => do
    if ← optional (.mark '@') then
      let name ← name
      let arguments ← arguments const levels
      return { name, arguments } :: (← directivesFrom const levels fuel)
    else return []

/-- Directives whose arguments may have as many levels as are left. -/
def usesWithin (const : Bool) (levels : Nat) : Read (List DirectiveUse) := do
  directivesFrom const levels (← rounds)

/-- The directives of a definition; their arguments are constants. -/
def directives : Read (List DirectiveUse) := usesWithin true deepest

/-! ## Parts of type definitions -/

def description? : Read (Option String) := do
  match ← peek? with
  | some (.text s) => do
    skip
    return some s
  | _ => return none

def inputDef : Read InputDef := do
  let description ← description?
  let name ← name
  expect (.mark ':')
  let type ← typeRef
  let default ← default?
  return { description, name, type, default, directives := ← directives }

def argumentDefs : Read (List InputDef) := optionalMany '(' ')' inputDef

def fieldDef : Read FieldDef := do
  let description ← description?
  let name ← name
  let arguments ← argumentDefs
  expect (.mark ':')
  let type ← typeRef
  return { description, name, arguments, type, directives := ← directives }

/-- The name of an enum value is no literal word. -/
def enumValueDef : Read EnumValueDef := do
  let description ← description?
  match ← peek? with
  | some (.name "true") | some (.name "false") | some (.name "null") => fail
  | _ =>
    let name ← name
    return { description, name, directives := ← directives }

def interfaces : Read (List String) := do
  if ← optional (.name "implements") then separated '&' name else return []

def fieldDefs : Read (List FieldDef) := optionalMany '\x7b' '\x7d' fieldDef

def unionMembers : Read (List String) := do
  if ← optional (.mark '=') then separated '|' name else return []

def operationKinds : List String := ["query", "mutation", "subscription"]

def operationKind : Read String := do
  match ← peek? with
  | some (.name s) =>
    if operationKinds.contains s then
      skip
      return s
    else fail
  | _ => fail

def operationType : Read (String × String) := do
  let kind ← operationKind
  expect (.mark ':')
  return (kind, ← name)

def locations : List String :=
  ["QUERY", "MUTATION", "SUBSCRIPTION", "FIELD", "FRAGMENT_DEFINITION", "FRAGMENT_SPREAD",
   "INLINE_FRAGMENT", "VARIABLE_DEFINITION", "SCHEMA", "SCALAR", "OBJECT", "FIELD_DEFINITION",
   "ARGUMENT_DEFINITION", "INTERFACE", "UNION", "ENUM", "ENUM_VALUE", "INPUT_OBJECT",
   "INPUT_FIELD_DEFINITION", "DIRECTIVE_DEFINITION", "FRAGMENT_VARIABLE_DEFINITION"]

def location : Read String := do
  match ← peek? with
  | some (.name s) =>
    if locations.contains s then
      skip
      return s
    else fail
  | _ => fail

/-! ## Type definitions -/

/-- The words that open the definition of a type. -/
def typeWords : List String := ["scalar", "type", "interface", "union", "enum", "input"]

/-- A type definition from its opening word on. -/
def typeDef (description : Option String) : Read TypeDef := do
  let word ← name
  let name ← name
  match word with
  | "scalar" => return { description, name, directives := ← directives, body := .scalar }
  | "type" =>
    let interfaces ← interfaces
    let directives ← directives
    return { description, name, directives, body := .object interfaces (← fieldDefs) }
  | "interface" =>
    let interfaces ← interfaces
    let directives ← directives
    return { description, name, directives, body := .interface interfaces (← fieldDefs) }
  | "union" =>
    let directives ← directives
    return { description, name, directives, body := .union (← unionMembers) }
  | "enum" =>
    let directives ← directives
    let values ← optionalMany '\x7b' '\x7d' enumValueDef
    return { description, name, directives, body := .enum values }
  | "input" =>
    let directives ← directives
    let fields ← optionalMany '\x7b' '\x7d' inputDef
    return { description, name, directives, body := .input fields }
  | _ => fail

/-- Whether an extension adds anything. -/
def TypeDef.addsNothing (d : TypeDef) : Bool :=
  d.directives.isEmpty &&
    match d.body with
    | .scalar => true
    | .object interfaces fields | .interface interfaces fields =>
      interfaces.isEmpty && fields.isEmpty
    | .union members => members.isEmpty
    | .enum values => values.isEmpty
    | .input fields => fields.isEmpty

def schemaDef : Read SchemaDef := do
  keyword "schema"
  let directives ← directives
  return { directives, operations := ← many '\x7b' '\x7d' operationType }

/-- An extension, from its opening word on, adds something. -/
def extension : Read Definition := do
  keyword "extend"
  match ← peek? with
  | some (.name "schema") => do
    skip
    let directives ← directives
    let operations ← optionalMany '\x7b' '\x7d' operationType
    if directives.isEmpty && operations.isEmpty then fail
    else return .extendSchema { directives, operations }
  | some (.name "directive") => do
    skip
    expect (.mark '@')
    let name ← name
    let directives ← directives
    if directives.isEmpty then fail else return .extendDirective { name, directives }
  | some (.name word) =>
    if typeWords.contains word then
      let d ← typeDef none
      if TypeDef.addsNothing d then fail else return .extendType d
    else fail
  | _ => fail

def directiveDef (description : Option String) : Read DirectiveDef := do
  keyword "directive"
  expect (.mark '@')
  let name ← name
  let arguments ← argumentDefs
  let directives ← directives
  let repeatable ← optional (.name "repeatable")
  keyword "on"
  let locations ← separated '|' location
  return { description, name, arguments, directives, repeatable, locations }

/-! ## Operations and fragments -/

/-- The name of a fragment is not `on`. -/
def fragmentName : Read Unit := do
  if ← sees (.name "on") then fail
  else
    let _ ← name
    return

mutual

/-- A selection with as many levels below it as are left. -/
def selection (levels : Nat) : Nat → Read Selection
  | 0 => fail
  | fuel + 1 => do
    if ← optional .spread then
      if ← optional (.name "on") then
        let onType ← name
        let directives ← usesWithin false levels
        return .inline (some onType) directives (← selectionSet levels fuel)
      else
        match ← peek? with
        | some (.name _) => do
          fragmentName
          return .spread (← usesWithin false levels)
        | _ => do
          let directives ← usesWithin false levels
          return .inline none directives (← selectionSet levels fuel)
    else
      let _ ← name
      if ← optional (.mark ':') then
        let _ ← name
      let arguments ← arguments false levels
      let directives ← usesWithin false levels
      let selections ← if ← sees (.mark '\x7b') then selectionSet levels fuel else pure []
      return .field arguments directives selections

/-- A set of selections, which is one level; it may be empty. -/
def selectionSet (levels : Nat) : Nat → Read (List Selection)
  | 0 => fail
  | fuel + 1 => do
    expect (.mark '\x7b')
    match levels with
    | 0 => throw .tooDeep
    | levels + 1 => selections levels fuel

def selections (levels : Nat) : Nat → Read (List Selection)
  | 0 => fail
  | fuel + 1 => do
    if ← optional (.mark '\x7d') then return []
    else
      let first ← selection levels fuel
      return first :: (← selections levels fuel)

end

/-- A selection set that stands in no other. Three times the tokens bound the steps within it. -/
def anySelectionSet : Read (List Selection) := do selectionSet deepest (3 * (← rounds))

def variableDef : Read VariableDef := do
  let _ ← description?
  expect (.mark '$')
  let _ ← name
  expect (.mark ':')
  let type ← typeRef
  let default ← default?
  return { type, default, directives := ← directives }

def operation : Read Definition := do
  if ← sees (.mark '\x7b') then return .operation "query" [] [] (← anySelectionSet)
  else
    let kind ← operationKind
    match ← peek? with
    | some (.name _) => skip
    | _ => pure ()
    let inputs ← optionalMany '(' ')' variableDef
    let directives ← usesWithin false deepest
    return .operation kind inputs directives (← anySelectionSet)

def fragment : Read Definition := do
  keyword "fragment"
  fragmentName
  keyword "on"
  let onType ← name
  let directives ← usesWithin false deepest
  return .fragment onType directives (← anySelectionSet)

/-! ## Documents -/

/-- A definition. What is no extension and no operation in short form may have a description. -/
def definition : Read Definition := do
  if ← sees (.mark '\x7b') then operation
  else
    let description ← description?
    match ← peek? with
    | some (.name word) =>
      if word = "schema" then return .schema (← schemaDef)
      else if word = "directive" then return .directive (← directiveDef description)
      else if typeWords.contains word then return .type (← typeDef description)
      else if word = "fragment" then fragment
      else if operationKinds.contains word then operation
      else if word = "extend" && description.isNone then extension
      else fail
    | _ => fail

def definitions : Nat → Read Document
  | 0 => fail
  | fuel + 1 => do
    match ← peek? with
    | none => return []
    | some _ =>
      let first ← definition
      return first :: (← definitions fuel)

/-- A document holds one definition at least. -/
def document : Read Document := do
  let first ← definition
  return first :: (← definitions (← rounds))

end Read

/-- The constant that a text says. -/
def Const.read (s : String) : Except SyntaxFault Const := do
  let (c, rest) ← (Read.value true Read.deepest).run (← tokens s)
  match rest with
  | [] => return c
  | t :: _ => throw (.unexpected t)

/-- The document that a text says. -/
def Document.read (s : String) : Except SyntaxFault Document := do
  let all ← tokens s
  return (← Read.document.run all).1

end SchemaTypings.Sdl
