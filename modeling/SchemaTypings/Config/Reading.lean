import SchemaTypings.Config.Basic

/-!
# Reading a configuration step by step

What `Config.ofValue` reads, with every step that can stop and what it stops at: only an object has
entries, a table answers only to keys that it holds, a record takes only arguments that it has a
field for, a style has to be known, and a value has a text only within its limits. A step is checked
beforehand, or its fault is put in the words of a configuration further out. Where neither is done the
fault comes out as it is.
-/

namespace SchemaTypings.Reading

/-- What a step can stop at. -/
inductive Fault where
  /-- A configuration that is refused, with the words for it. -/
  | refused (message : String)
  /-- A value that nothing is known by. -/
  | unknownValue (message : String)
  /-- An argument that a record has no field for. -/
  | unknownArgument (message : String)
  /-- A value that has no entries. -/
  | noEntries (kind : String)
  /-- A key that a table does not hold. -/
  | noKey (key : String)
  /-- A value with more levels than there is room for where it is put into text. -/
  | tooDeep

abbrev Reads := Except Fault

/-- Goes on only if a condition holds. -/
def require (condition : Bool) (e : ConfigError) : Reads Unit :=
  if condition then .ok () else .error (.refused e.message)

/-! ## Steps -/

def isObject : Value → Bool
  | .object _ => true
  | _ => false

def isText : Value → Bool
  | .text _ => true
  | _ => false

def entries : Value → Reads (List (String × Value))
  | .object fields => .ok fields
  | v => .error (.noEntries v.kindLabel)

def lookUp {α : Type} (t : Table String α) (key : String) : Reads α :=
  match Table.get? t key with
  | some a => .ok a
  | none => .error (.noKey key)

/-- Passes the arguments to a record with these fields. -/
def takes (fields : List String) (arguments : Table String Value) : Reads Unit :=
  match (Table.keys arguments).find? fun name => !fields.contains name with
  | some name => .error (.unknownArgument ("unexpected argument " ++ name))
  | none => .ok ()

/-- The text of a value. -/
def words (v : Value) (levels : Option Nat) : Reads String :=
  match v.limit? levels with
  | none => .ok v.display
  | some .digits => .error (.unknownValue TextLimit.digits.message)
  | some .levels => .error .tooDeep

/-! ## Compound options -/

/-- The entries of a compound option. -/
def record (option : String) (v : Value) : Reads (Table String Value) := do
  require (isObject v) (.recordShape option)
  return normalizeKeys (← entries v)

/-- The style that is spelled by the text of a value. -/
def spelledStyle (v : Value) (room : Room) : Reads NameStyle := do
  let key := NameStyle.spellingKey (← words v room.style)
  if !Table.has NameStyle.spellings key then
    let _ ← words v room.unknownStyle
    .error (.unknownValue (ConfigError.unknownNaming v).message)
  lookUp NameStyle.spellings key

def style (v : Value) (room : Room) : Reads NameStyle :=
  match v with
  | .null => .ok .pascal
  | v => spelledStyle v room

/-- A style that is not known is a fault of the configuration. -/
def unknownStyle : Fault → Fault
  | .unknownValue message => .refused message
  | fault => fault

def styles (v : Value) (room : Room) : Reads NamingConvention := do
  match v with
  | .null => return {}
  | .text s =>
    let both ← style (.text s) room
    return { typeNames := both, enumValues := both }
  | v =>
    let given ← record "naming_convention" v
    let typeNames ← style ((Table.get? given "type_names").getD .null) room
    let enumValues ← style ((Table.get? given "enum_values").getD .null) room
    let drop := ((Table.get? given "transform_underscore").getD (.bool false)).truthy
    return { typeNames, enumValues, dropUnderscores := drop }

def naming (v : Value) (room : Room) : Reads NamingConvention :=
  (styles v room).mapError unknownStyle

/-- The kinds of declarations as they were given, checked but not taken for keywords. -/
structure Kinds where
  object : Value := .text "type"
  input : Value := .text "type"
  interface : Value := .text "type"
  arguments : Value := .text "type"

def Kinds.categories : List String := ["type", "input", "interface", "arguments"]

def isKind (v : Value) : Bool := DeclarationKeyword.all.any fun k => v.asText? = some k.word

def Kinds.ofTable (t : Table String Value) : Kinds :=
  let kindOf (category : String) : Value := (Table.get? t category).getD (.text "type")
  { object := kindOf "type", input := kindOf "input", interface := kindOf "interface",
    arguments := kindOf "arguments" }

/-- Checks the kind of one category; the words about one that is not known hold its text. -/
def checkKind (room : Room) (p : String × Value) : Reads Unit := do
  if !isKind p.2 then
    let _ ← words p.2 room.unknownKind
    .error (.refused (ConfigError.unknownKind p.1 p.2).message)

def checkKinds (given : Table String Value) (room : Room) : Reads Unit :=
  given.forM (checkKind room)

/-- Checks the kind of each category, and passes on those of categories that are known. -/
def givenKinds (given : Table String Value) (room : Room) : Reads Kinds := do
  checkKinds given room
  let known := given.filter fun p => Kinds.categories.contains p.1
  takes Kinds.categories known
  return .ofTable known

def kinds (v : Value) (room : Room) : Reads Kinds := do
  match v with
  | .null => return {}
  | .text s => givenKinds (Kinds.categories.map fun category => (category, .text s)) room
  | v => givenKinds (← record "declaration_kind" v) room

def avoid (v : Value) : Reads AvoidOptionals := do
  match v with
  | .null | .bool false => return {}
  | .bool true => return { field := true, inputValue := true }
  | v =>
    let given ← record "avoid_optionals" v
    let truth (key : String) : Bool := ((Table.get? given key).getD (.bool false)).truthy
    return { field := truth "field", inputValue := truth "input_value",
             defaultValue := truth "default_value" }

/-! ## Configurations -/

/-- What the compound options are read as. -/
structure Views where
  naming : NamingConvention
  kinds : Kinds
  avoid : AvoidOptionals

def views (o : Options) (room : Room) : Reads Views := do
  return { naming := ← naming (o .namingConvention) room,
           kinds := ← kinds (o .declarationKind) room,
           avoid := ← avoid (o .avoidOptionals) }

/-- The options for a form of enums that are true. -/
def formsAsked (o : Options) : List OptionName :=
  [OptionName.enumsAsTypes, .enumsAsConst, .numericEnums, .constEnums].filter fun name =>
    (o name).truthy

/-- Checks the options that are not compound. -/
def check (o : Options) : Reads Unit := do
  require ((formsAsked o).length ≤ 1) (.exclusive ((formsAsked o).map (·.key)))
  require (isText (o .scalars) || isObject (o .scalars)) .scalarsShape
  require (isText (o .enumValues) || isObject (o .enumValues)) .enumValuesShape
  require (isObject (o .directiveMappings)) .directiveMappingsShape

def construct (arguments : Table String Value) (room : Room) : Reads (Options × Views) := do
  takes (OptionName.all.map (·.key)) arguments
  let o := Options.ofTable arguments
  check o
  return (o, ← views o room)

/-- Values and arguments that are not known make a configuration invalid. -/
def invalid : Fault → Fault
  | .unknownValue message | .unknownArgument message =>
    .refused ("Invalid configuration: " ++ message)
  | fault => fault

def config (v : Value) (room : Room) : Reads (Options × Views) := do
  require (isObject v) (.notMapping v)
  let given := normalizeKeys (← entries v)
  (construct (given.filter fun p => ConfigClass.types.knows p.1) room).mapError invalid

end SchemaTypings.Reading
