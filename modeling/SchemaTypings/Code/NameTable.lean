import SchemaTypings.Code.Names
import SchemaTypings.Name.Sanitizer

/-!
# Names with a memory

A name table answers the same names as the settings do, and remembers each answer.
-/

namespace SchemaTypings.Code

open SchemaTypings (Settings NameSanitizer Table)
open Settings (NameForm)

structure NameTable where
  settings : Settings
  sanitizer : NameSanitizer
  typeNames : Table String String := []
  enumNames : Table String String := []
  enumKeys : Table (String × String) String := []
  argsNames : Table (String × String) String := []

namespace NameTable

def ofSettings (s : Settings) : NameTable :=
  { settings := s, sanitizer := { defaultStyle := s.naming.typeNames } }

def convert (name : String) (f : NameForm := {}) : StateM NameTable String := do
  let t ← get
  let (style, drop) := t.settings.effective f
  let (converted, sanitizer) := t.sanitizer.sanitize name (some style) (.ofBool drop)
  set { t with sanitizer }
  return t.settings.decorate f converted

def typeName (name : String) : StateM NameTable String := do
  match Table.get? (← get).typeNames name with
  | some known => return known
  | none =>
    let made ← convert name
    modify fun t => { t with typeNames := Table.put t.typeNames name made }
    return made

def enumName (name : String) : StateM NameTable String := do
  match Table.get? (← get).enumNames name with
  | some known => return known
  | none =>
    let made ← convert name { withPrefix := (← get).settings.enumPrefix }
    modify fun t => { t with enumNames := Table.put t.enumNames name made }
    return made

def enumKey (enum value : String) : StateM NameTable String := do
  match Table.get? (← get).enumKeys (enum, value) with
  | some known => return known
  | none =>
    let made := asKey (← convert value (← get).settings.enumKeyForm)
    modify fun t => { t with enumKeys := Table.put t.enumKeys (enum, value) made }
    return made

def argsName (owner field : String) : StateM NameTable String := do
  match Table.get? (← get).argsNames (owner, field) with
  | some known => return known
  | none =>
    let part ← convert field Settings.bareForm
    let made ← convert ((← get).settings.argsBase owner part)
    modify fun t => { t with argsNames := Table.put t.argsNames (owner, field) made }
    return made

end NameTable

end SchemaTypings.Code
