import SchemaTypings.Schema.Basic
import SchemaTypings.Sdl.Reader

/-!
# Building a schema from a document

A text becomes a schema in three steps: it is read, its flaws are looked for, and the types are put
together from their definitions and extensions.
-/

namespace SchemaTypings

/-- Why a text gives no schema. -/
inductive SchemaError where
  | malformed (fault : Sdl.SyntaxFault)
  | flawed (flaws : List Sdl.Flaw)
  | badArgument (directive argument : String)

def SchemaError.message : SchemaError → String
  | .malformed fault => "Syntax Error: " ++ fault.message
  | .flawed flaws => "\n\n".intercalate (flaws.map (·.message))
  | .badArgument directive argument =>
    "Argument '" ++ argument ++ "' of directive '@" ++ directive ++ "' has an invalid value."

namespace Schema

open Sdl (DirectiveUse InputDef FieldDef EnumValueDef TypeDef DirectiveDef DirectiveExtension Document
  Definition)

/-! ## Arguments of directives -/

/-- The text that the first use of a directive gives for an argument, or a default. Any other value, a
null among them, is an error. -/
def textArgument (uses : List DirectiveUse) (directive argument : String)
    (absent : Except SchemaError String) : Except SchemaError (Option String) :=
  match uses.find? fun u => u.name = directive with
  | none => .ok none
  | some use =>
    match use.arguments.lookup argument with
    | none => absent.map some
    | some (.text s) => .ok (some s)
    | some _ => .error (.badArgument directive argument)

/-- The notice of a deprecation; a deprecation without a reason has the usual one. -/
def deprecationOf (uses : List DirectiveUse) : Except SchemaError Note :=
  (textArgument uses "deprecated" "reason" (.ok "No longer supported")).map Note.ofText?

/-- The page that specifies a scalar has to be named wherever one is announced. -/
def checkSpecifiedBy (uses : List DirectiveUse) : Except SchemaError Unit := do
  let missing := SchemaError.badArgument "specifiedBy" "url"
  let _ ← textArgument uses "specifiedBy" "url" (.error missing)
  return

/-! ## Parts of types -/

def names (uses : List DirectiveUse) : List String := uses.map (·.name)

def inputOf (d : InputDef) : Except SchemaError InputValue := do
  return { name := d.name, type := d.type, description := Note.ofText? d.description,
           deprecation := ← deprecationOf d.directives, hasDefault := d.default.isSome,
           directives := names d.directives }

def fieldOf (d : FieldDef) : Except SchemaError Field := do
  let arguments ← d.arguments.mapM inputOf
  return { name := d.name, type := d.type, description := Note.ofText? d.description,
           deprecation := ← deprecationOf d.directives, directives := names d.directives,
           arguments }

/-- An enum value stands for its own name. -/
def enumValueOf (d : EnumValueDef) : Except ValuesFault EnumValue := do
  let deprecation ← (deprecationOf d.directives).mapError fun _ => ValuesFault.badNotice d.name
  return { name := d.name, description := Note.ofText? d.description, deprecation,
           stored := .plain (.text d.name) }

/-- The body of a type from its definition, which comes first, and its extensions. -/
def bodyOf (d : TypeDef) (parts : List TypeDef) : Except SchemaError TypeBody := do
  let interfaces := parts.flatMap fun p =>
    match p.body with
    | .object interfaces _ | .interface interfaces _ => interfaces
    | _ => []
  match d.body with
  | .scalar => do
    parts.forM fun p => checkSpecifiedBy p.directives
    return .scalar
  | .object .. => return .object interfaces (← (parts.flatMap (·.body.fields)).mapM fieldOf)
  | .interface .. => return .interface interfaces (← (parts.flatMap (·.body.fields)).mapM fieldOf)
  | .union _ =>
    return .union (parts.flatMap fun p =>
      match p.body with
      | .union members => members
      | _ => [])
  | .enum _ => return .enum ((parts.flatMap (·.body.values)).mapM enumValueOf)
  | .input _ =>
    let oneOf := d.directives.any fun u => u.name = "oneOf"
    return .input oneOf (← (parts.flatMap (·.body.inputs)).mapM inputOf)

/-- A type from its definition and its extensions, in order. -/
def typeOf (d : TypeDef) (extensions : List TypeDef) : Except SchemaError NamedType := do
  let parts := d :: extensions
  return { name := d.name, description := Note.ofText? d.description,
           directives := parts.flatMap fun p => names p.directives, body := ← bodyOf d parts }

def builtinScalar (name : String) : NamedType :=
  { name, description := .null, directives := [], body := .scalar }

/-! ## The order of types -/

/-- The types that a type names, in the order in which a walk meets them. -/
def namedBy (t : NamedType) : List String :=
  match t.body with
  | .object interfaces fields | .interface interfaces fields =>
    interfaces ++ fields.flatMap fun f => f.type.name :: f.arguments.map (·.type.name)
  | .union members => members
  | .input _ fields => fields.map (·.type.name)
  | .scalar | .enum _ => []

/-- The built-in scalars behind a name: itself, or those of the schema's description of itself. -/
def scalarsBehind (name : String) : List String :=
  if Sdl.builtinScalars.contains name then [name]
  else if Sdl.introspectionObjects.contains name then ["String", "Boolean"]
  else []

def addScalar (types : List NamedType) (name : String) : List NamedType :=
  if types.any fun t => t.name = name then types else types ++ [builtinScalar name]

/-- Puts each built-in scalar after the type that uses it first. Scalars that the document defines
under a built-in name stay where they are. -/
def withScalars (own : List NamedType) (further : List String) : List NamedType :=
  let defined := own.map (·.name)
  let add (types : List NamedType) (name : String) : List NamedType :=
    (scalarsBehind name).foldl
      (fun types name => if defined.contains name then types else addScalar types name) types
  let ordered := own.foldl (fun types t => (namedBy t).foldl add (types ++ [t])) []
  further.foldl add ordered

/-! ## Documents -/

/-- The types of a document. A standard type stays what it is, whatever defines its name. -/
def typesOf (doc : Document) : Except SchemaError (List NamedType) := do
  let extensions := doc.filterMap Definition.extension?
  let defs := (doc.filterMap Definition.ownType?).filter fun d =>
    !Sdl.introspectionTypes.contains d.name
  defs.mapM fun d =>
    if Sdl.builtinScalars.contains d.name then return builtinScalar d.name
    else typeOf d (extensions.filter fun e => e.name = d.name)

/-- The directives of a document, then the built-in ones that it does not define itself. -/
def directivesOf (doc : Document) : List DirectiveDef :=
  let own := doc.filterMap Definition.directive?
  own ++ Sdl.builtinDirectives.filter fun b => !own.any fun d => d.name = b.name

/-- The notices of deprecation on the arguments of a directive and on the directive itself, which its
extensions may deprecate, too, have to be texts. -/
def checkDirective (extensions : List DirectiveExtension) (d : DirectiveDef) :
    Except SchemaError Unit := do
  let _ ← d.arguments.mapM inputOf
  let own := extensions.filter fun e => e.name = d.name
  let _ ← deprecationOf (d.directives ++ own.flatMap (·.directives))
  return

/-- The schema of a document without flaws. An extension of a directive that the document does not
define has no effect. -/
def ofFlawless (doc : Document) : Except SchemaError Schema := do
  let own ← typesOf doc
  let directives := directivesOf doc
  (doc.filterMap Definition.directive?).forM
    (checkDirective (doc.filterMap Definition.directiveExtension?))
  let operations := (doc.filterMap Definition.anySchema?).flatMap fun d => d.operations.map (·.2)
  let arguments := directives.flatMap fun d => d.arguments.map (·.type.name)
  return { types := withScalars own (operations ++ arguments ++ ["__Schema"]),
           directives := directives.map fun d => (d.name, Note.ofText? d.description) }

def ofDocument (doc : Document) : Except SchemaError Schema :=
  match doc.flaws with
  | [] => ofFlawless doc
  | flaws => .error (.flawed flaws)

/-- The schema that a text defines. -/
def ofText (s : String) : Except SchemaError Schema :=
  match Document.read s with
  | .ok doc => ofDocument doc
  | .error fault => .error (.malformed fault)

end Schema

end SchemaTypings
