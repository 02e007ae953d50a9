import SchemaTypings.Config.Settings

/-!
# Names in the written code

The identifiers under which types, enums, their members and argument bags are declared.
-/

namespace SchemaTypings.Code

/-- The name of the declaration that lists all scalars. -/
def scalarsName : String := "Scalars"

/-- The name of the declaration that lists the types mapped to directives. -/
def directiveMappingsName : String := "DirectiveArgumentAndInputFieldMappings"

/-- A member key as the property name that it stands for. -/
def propertyName (key : String) : String :=
  String.ofList (Text.trimOf (· == '\'') key.toList)

/-- A name that is no identifier becomes a quoted key. -/
def asKey (name : String) : String :=
  if Name.isIdentifier name.toList then name else "'" ++ name ++ "'"

end SchemaTypings.Code

namespace SchemaTypings.Settings

open SchemaTypings.Code

/-- What a conversion can ask for; what it leaves open the settings decide. -/
structure NameForm where
  withPrefix : Bool := true
  withSuffix : Bool := true
  style : Option NameStyle := none
  dropUnderscores : Option Bool := none

/-- The style of a conversion and whether it drops underscores. -/
def effective (s : Settings) (f : NameForm) : NameStyle × Bool :=
  (f.style.getD s.naming.typeNames, f.dropUnderscores.getD s.naming.dropUnderscores)

def decorate (s : Settings) (f : NameForm) (converted : String) : String :=
  (if f.withPrefix then s.typesPrefix else "") ++ converted ++
    (if f.withSuffix then s.typesSuffix else "")

def convertName (s : Settings) (name : String) (f : NameForm := {}) : String :=
  let (style, drop) := s.effective f
  s.decorate f (style.applyParts name drop)

/-- The identifier of an object, interface, union or input. -/
def typeName (s : Settings) (name : String) : String := s.convertName name

/-- The identifier of an enum that is declared here. -/
def enumName (s : Settings) (name : String) : String :=
  s.convertName name { withPrefix := s.enumPrefix }

/-- How the key of an enum value is spelled: without prefix and suffix, each underscore being a word
boundary. -/
def enumKeyForm (s : Settings) : NameForm :=
  { withPrefix := false, withSuffix := false, style := some s.naming.enumValues,
    dropUnderscores := some true }

def enumKey (s : Settings) (value : String) : String := asKey (s.convertName value s.enumKeyForm)

def bareForm : NameForm := { withPrefix := false, withSuffix := false }

/-- The name of an argument bag before it is converted as a whole. -/
def argsBase (s : Settings) (owner converted : String) : String :=
  owner ++ (if s.underscoreBeforeArgs then "_" else "") ++ converted ++ "Args"

/-- The identifier of the arguments of a field. -/
def argsName (s : Settings) (owner field : String) : String :=
  s.convertName (s.argsBase owner (s.convertName field bareForm))

end SchemaTypings.Settings
