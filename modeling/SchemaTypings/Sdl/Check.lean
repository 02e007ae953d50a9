import SchemaTypings.Sdl.Document
import SchemaTypings.Table

/-!
# Rules that a document must keep

A well-formed document can still make no schema: names may be unknown or defined twice, extensions of
types may have nothing to extend, and directives may stand in the wrong place or with the wrong
arguments. Each rule lists the flaws that it finds; a document without flaws can be built.
-/

namespace SchemaTypings.Sdl

inductive Flaw where
  | secondSchema
  | repeatedOperation (kind : String)
  | repeatedType (name : String)
  | repeatedDirective (name : String)
  | repeatedMember (type name : String)
  | repeatedArgument (name : String)
  | unknownType (name : String)
  | unknownDirective (name : String)
  | misplacedDirective (name location : String)
  | repeatedUse (name : String)
  | nothingToExtend (name : String)
  | otherKind (name : String)
  | unknownArgument (directive name : String)
  | missingArgument (directive name : String)
  | repeatedInputField (name : String)
  deriving DecidableEq, Repr

def Flaw.message : Flaw → String
  | secondSchema => "Must provide only one schema definition."
  | repeatedOperation kind => "There can be only one " ++ kind ++ " type in schema."
  | repeatedType name => "There can be only one type named '" ++ name ++ "'."
  | repeatedDirective name => "There can be only one directive named '@" ++ name ++ "'."
  | repeatedMember type name => "'" ++ type ++ "." ++ name ++ "' can only be defined once."
  | repeatedArgument name => "There can be only one argument named '" ++ name ++ "'."
  | unknownType name => "Unknown type '" ++ name ++ "'."
  | unknownDirective name => "Unknown directive '@" ++ name ++ "'."
  | misplacedDirective name location =>
    "Directive '@" ++ name ++ "' may not be used on " ++ location ++ "."
  | repeatedUse name => "The directive '@" ++ name ++ "' can only be used once at this location."
  | nothingToExtend name => "Cannot extend type '" ++ name ++ "' because it is not defined."
  | otherKind name => "Cannot extend type '" ++ name ++ "' as another kind."
  | unknownArgument directive name =>
    "Unknown argument '" ++ name ++ "' on directive '@" ++ directive ++ "'."
  | missingArgument directive name =>
    "Directive '@" ++ directive ++ "' argument '" ++ name ++ "' is required."
  | repeatedInputField name => "There can be only one input field named '" ++ name ++ "'."

/-! ## What exists without a definition -/

def builtinScalars : List String := ["String", "Int", "Float", "Boolean", "ID"]

/-- The enums in which a schema describes itself. -/
def introspectionEnums : List String := ["__TypeKind", "__DirectiveLocation"]

/-- The objects in which a schema describes itself. -/
def introspectionObjects : List String :=
  ["__Schema", "__Directive", "__Type", "__Field", "__InputValue", "__EnumValue"]

def introspectionTypes : List String := introspectionObjects ++ introspectionEnums

def standardTypes : List String := builtinScalars ++ introspectionTypes

private def builtinArgument (name : String) (type : TypeRef) (default : Option Const) : InputDef :=
  { description := none, name, type, default, directives := [] }

/-- The directives that need no definition. -/
def builtinDirectives : List DirectiveDef :=
  [{ name := "include", repeatable := false, directives := [],
     description := some ("Directs the executor to include this field or fragment only when " ++
       "the \x60if\x60 argument is true."),
     arguments := [builtinArgument "if" (.named false "Boolean") none],
     locations := ["FIELD", "FRAGMENT_SPREAD", "INLINE_FRAGMENT"] },
   { name := "skip", repeatable := false, directives := [],
     description := some ("Directs the executor to skip this field or fragment when " ++
       "the \x60if\x60 argument is true."),
     arguments := [builtinArgument "if" (.named false "Boolean") none],
     locations := ["FIELD", "FRAGMENT_SPREAD", "INLINE_FRAGMENT"] },
   { name := "deprecated", repeatable := false, directives := [],
     description := some "Marks an element of a GraphQL schema as no longer supported.",
     arguments :=
       [builtinArgument "reason" (.named false "String") (some (.text "No longer supported"))],
     locations :=
       ["FIELD_DEFINITION", "ARGUMENT_DEFINITION", "INPUT_FIELD_DEFINITION", "ENUM_VALUE",
        "DIRECTIVE_DEFINITION"] },
   { name := "specifiedBy", repeatable := false, directives := [],
     description := some "Exposes a URL that specifies the behavior of this scalar.",
     arguments := [builtinArgument "url" (.named false "String") none],
     locations := ["SCALAR"] },
   { name := "oneOf", repeatable := false, directives := [],
     description := some ("Indicates exactly one field must be supplied and this field must " ++
       "not be \x60null\x60."),
     arguments := [],
     locations := ["INPUT_OBJECT"] }]

/-! ## The parts of a document -/

namespace TypeBody

/-- The location of directives on a type of this kind; it names the kind, too. -/
def location : TypeBody → String
  | scalar => "SCALAR"
  | object .. => "OBJECT"
  | interface .. => "INTERFACE"
  | union _ => "UNION"
  | enum _ => "ENUM"
  | input _ => "INPUT_OBJECT"

def fields : TypeBody → List FieldDef
  | object _ fields | interface _ fields => fields
  | _ => []

def inputs : TypeBody → List InputDef
  | input fields => fields
  | _ => []

def values : TypeBody → List EnumValueDef
  | enum values => values
  | _ => []

/-- The types that a body names. -/
def typeNames : TypeBody → List String
  | object interfaces fields | interface interfaces fields =>
    interfaces ++ fields.flatMap fun f => f.type.name :: f.arguments.map (·.type.name)
  | union members => members
  | input fields => fields.map (·.type.name)
  | scalar | enum _ => []

end TypeBody

/-- Definitions and extensions of types. -/
def Definition.typeDef? : Definition → Option TypeDef
  | type d | extendType d => some d
  | _ => none

def Definition.ownType? : Definition → Option TypeDef
  | type d => some d
  | _ => none

def Definition.extension? : Definition → Option TypeDef
  | extendType d => some d
  | _ => none

def Definition.directive? : Definition → Option DirectiveDef
  | directive d => some d
  | _ => none

def Definition.directiveExtension? : Definition → Option DirectiveExtension
  | extendDirective d => some d
  | _ => none

def Definition.schema? : Definition → Option SchemaDef
  | schema d => some d
  | _ => none

def Definition.anySchema? : Definition → Option SchemaDef
  | schema d | extendSchema d => some d
  | _ => none

/-- The directives that a document can use; its own definitions come before the built-in ones. -/
def Document.knownDirective? (doc : Document) (name : String) : Option DirectiveDef :=
  match (doc.filterMap Definition.directive?).reverse.find? fun d => d.name = name with
  | some d => some d
  | none => builtinDirectives.find? fun d => d.name = name

/-! ## Places for directives -/

/-- What shares the rule that a directive stands there once. -/
inductive Slot where
  | alone
  | schema
  | type (name : String)
  | directive (name : String)
  deriving DecidableEq

/-- A place where directives stand. -/
structure Site where
  location : String
  uses : List DirectiveUse
  slot : Slot := .alone

def argumentSites (ds : List InputDef) : List Site :=
  ds.map fun d => { location := "ARGUMENT_DEFINITION", uses := d.directives }

/-- The places in a type. -/
def typeSites (d : TypeDef) : List Site :=
  { location := d.body.location, uses := d.directives, slot := .type d.name } ::
    (d.body.fields.flatMap fun f =>
      { location := "FIELD_DEFINITION", uses := f.directives } :: argumentSites f.arguments) ++
    (d.body.inputs.map fun i => { location := "INPUT_FIELD_DEFINITION", uses := i.directives }) ++
    (d.body.values.map fun v => { location := "ENUM_VALUE", uses := v.directives })

mutual

def Selection.sites : Selection → List Site
  | .field _ directives selections =>
    { location := "FIELD", uses := directives } :: selectionSites selections
  | .spread directives => [{ location := "FRAGMENT_SPREAD", uses := directives }]
  | .inline _ directives selections =>
    { location := "INLINE_FRAGMENT", uses := directives } :: selectionSites selections

def selectionSites : List Selection → List Site
  | [] => []
  | s :: rest => s.sites ++ selectionSites rest

end

def operationLocation (kind : String) : String :=
  if kind = "mutation" then "MUTATION"
  else if kind = "subscription" then "SUBSCRIPTION"
  else "QUERY"

/-- The place of the directives of a directive. -/
def directiveSite (name : String) (uses : List DirectiveUse) : Site :=
  { location := "DIRECTIVE_DEFINITION", uses, slot := .directive name }

def Definition.sites : Definition → List Site
  | type d | extendType d => typeSites d
  | directive d => directiveSite d.name d.directives :: argumentSites d.arguments
  | extendDirective d => [directiveSite d.name d.directives]
  | schema d | extendSchema d => [{ location := "SCHEMA", uses := d.directives, slot := .schema }]
  | operation kind inputs directives selections =>
    { location := operationLocation kind, uses := directives } ::
      (inputs.map fun v => { location := "VARIABLE_DEFINITION", uses := v.directives }) ++
      selectionSites selections
  | fragment _ directives selections =>
    { location := "FRAGMENT_DEFINITION", uses := directives } :: selectionSites selections

def Document.sites (doc : Document) : List Site := doc.flatMap Definition.sites

def Document.uses (doc : Document) : List DirectiveUse := doc.sites.flatMap (·.uses)

/-! ## Types that are named -/

mutual

def Selection.typeNames : Selection → List String
  | .field _ _ selections => selectionTypeNames selections
  | .spread _ => []
  | .inline onType _ selections => onType.toList ++ selectionTypeNames selections

def selectionTypeNames : List Selection → List String
  | [] => []
  | s :: rest => s.typeNames ++ selectionTypeNames rest

end

/-- The types that a definition names; operations do not know the standard types by themselves. -/
def Definition.typeNames : Definition → List String
  | type d | extendType d => d.body.typeNames
  | directive d => d.arguments.map (·.type.name)
  | extendDirective _ => []
  | schema d | extendSchema d => d.operations.map (·.2)
  | operation _ inputs _ selections =>
    inputs.map (·.type.name) ++ selectionTypeNames selections
  | fragment onType _ selections => onType :: selectionTypeNames selections

def Definition.isExecutable : Definition → Bool
  | operation .. | fragment .. => true
  | _ => false

/-! ## Values -/

mutual

/-- The argument lists of the fields in a selection. -/
def Selection.argumentLists : Selection → List (List (String × Const))
  | .field arguments _ selections => arguments :: selectionArgumentLists selections
  | .spread _ => []
  | .inline _ _ selections => selectionArgumentLists selections

def selectionArgumentLists : List Selection → List (List (String × Const))
  | [] => []
  | s :: rest => s.argumentLists ++ selectionArgumentLists rest

end

def Definition.argumentLists : Definition → List (List (String × Const))
  | operation _ _ _ selections | fragment _ _ selections => selectionArgumentLists selections
  | _ => []

def inputDefaults (ds : List InputDef) : List Const := ds.filterMap (·.default)

def Definition.defaults : Definition → List Const
  | type d | extendType d =>
    (d.body.fields.flatMap fun f => inputDefaults f.arguments) ++ inputDefaults d.body.inputs
  | directive d => inputDefaults d.arguments
  | operation _ inputs _ _ => inputs.filterMap (·.default)
  | _ => []

/-- Each argument list of a document: those of its directives and of its fields. -/
def Document.argumentLists (doc : Document) : List (List (String × Const)) :=
  doc.uses.map (·.arguments) ++ doc.flatMap Definition.argumentLists

mutual

/-- The field names of each object in a value. -/
def Const.objects : Const → List (List String)
  | .list items => constObjects items
  | .object fields => fieldNames fields :: fieldObjects fields
  | _ => []

def constObjects : List Const → List (List String)
  | [] => []
  | v :: rest => v.objects ++ constObjects rest

def fieldObjects : List (String × Const) → List (List String)
  | [] => []
  | (_, v) :: rest => v.objects ++ fieldObjects rest

def fieldNames : List (String × Const) → List String
  | [] => []
  | (name, _) :: rest => name :: fieldNames rest

end

/-! ## The rules -/

/-- The names that occurred before, once for each further time. -/
def repeated : List String → List String
  | [] => []
  | name :: rest => (if rest.contains name then [name] else []) ++ repeated rest

def ruleOneSchema (doc : Document) : List Flaw :=
  ((doc.filterMap Definition.schema?).drop 1).map fun _ => .secondSchema

def ruleOperations (doc : Document) : List Flaw :=
  (repeated ((doc.filterMap Definition.anySchema?).flatMap fun d => d.operations.map (·.1))).map
    .repeatedOperation

def ruleTypeNames (doc : Document) : List Flaw :=
  (repeated ((doc.filterMap Definition.ownType?).map (·.name))).map .repeatedType

def ruleDirectiveNames (doc : Document) : List Flaw :=
  (repeated ((doc.filterMap Definition.directive?).map (·.name))).map .repeatedDirective

/-- A type and its extensions together define each field, input field and enum value once. -/
def ruleMembers (doc : Document) : List Flaw :=
  let defs := doc.filterMap Definition.typeDef?
  let names := (defs.map (·.name)).eraseDups
  names.flatMap fun name =>
    let own := defs.filter fun d => d.name = name
    let fields := own.flatMap fun d => d.body.fields.map (·.name) ++ d.body.inputs.map (·.name)
    let values := own.flatMap fun d => d.body.values.map (·.name)
    (repeated fields ++ repeated values).map (.repeatedMember name)

def ruleArgumentDefs (doc : Document) : List Flaw :=
  let ofType := (doc.filterMap Definition.typeDef?).flatMap fun d =>
    d.body.fields.map (·.arguments)
  let ofDirective := (doc.filterMap Definition.directive?).map (·.arguments)
  (ofType ++ ofDirective).flatMap fun args => (repeated (args.map (·.name))).map .repeatedArgument

def ruleKnownTypes (doc : Document) : List Flaw :=
  let defined := (doc.filterMap Definition.ownType?).map (·.name)
  doc.flatMap fun d =>
    let known := if d.isExecutable then defined else defined ++ standardTypes
    (d.typeNames.filter fun name => !known.contains name).map .unknownType

def ruleKnownDirectives (doc : Document) : List Flaw :=
  doc.sites.flatMap fun site => site.uses.filterMap fun use =>
    match doc.knownDirective? use.name with
    | none => some (.unknownDirective use.name)
    | some d =>
      if d.locations.contains site.location then none
      else some (.misplacedDirective use.name site.location)

/-- A directive that is not repeatable stands once at its place; a type or a directive and its
extensions are one place, and so are all definitions and extensions of the schema. -/
def ruleUsedOnce (doc : Document) : List Flaw :=
  let slots := (doc.sites.map (·.slot)).eraseDups.filter fun slot => slot ≠ .alone
  let places := (doc.sites.filter fun s => s.slot = .alone).map (·.uses) ++
    slots.map fun slot => (doc.sites.filter fun s => s.slot = slot).flatMap (·.uses)
  places.flatMap fun uses =>
    (repeated (uses.map (·.name))).filterMap fun name =>
      match doc.knownDirective? name with
      | some d => if d.repeatable then none else some (.repeatedUse name)
      | none => none

def ruleExtensions (doc : Document) : List Flaw :=
  let defined := doc.filterMap Definition.ownType?
  (doc.filterMap Definition.extension?).filterMap fun d =>
    match defined.reverse.find? fun t => t.name = d.name with
    | none => some (.nothingToExtend d.name)
    | some t => if t.body.location = d.body.location then none else some (.otherKind d.name)

def ruleKnownArguments (doc : Document) : List Flaw :=
  doc.uses.flatMap fun use =>
    match doc.knownDirective? use.name with
    | none => []
    | some d =>
      (use.arguments.filter fun a => !(d.arguments.map (·.name)).contains a.1).map fun a =>
        .unknownArgument use.name a.1

def ruleArgumentsOnce (doc : Document) : List Flaw :=
  doc.argumentLists.flatMap fun args => (repeated (args.map (·.1))).map .repeatedArgument

def ruleInputFieldsOnce (doc : Document) : List Flaw :=
  let values := doc.argumentLists.flatMap (fun args => args.map (·.2)) ++
    doc.flatMap Definition.defaults
  values.flatMap fun v => v.objects.flatMap fun names => (repeated names).map .repeatedInputField

/-- An argument that is neither nullable nor has a default is required. -/
def ruleRequiredArguments (doc : Document) : List Flaw :=
  doc.uses.flatMap fun use =>
    match doc.knownDirective? use.name with
    | none => []
    | some d =>
      let required := d.arguments.filter fun a => !a.type.nullable && a.default.isNone
      (required.filter fun a => !(use.arguments.map (·.1)).contains a.name).map fun a =>
        .missingArgument use.name a.name

def rules : List (Document → List Flaw) :=
  [ruleOneSchema, ruleOperations, ruleTypeNames, ruleMembers, ruleArgumentDefs,
   ruleDirectiveNames, ruleKnownTypes, ruleKnownDirectives, ruleUsedOnce, ruleExtensions,
   ruleKnownArguments, ruleArgumentsOnce, ruleInputFieldsOnce, ruleRequiredArguments]

/-- All flaws of a document, rule by rule. -/
def Document.flaws (doc : Document) : List Flaw := rules.flatMap fun rule => rule doc

end SchemaTypings.Sdl
