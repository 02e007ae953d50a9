import SchemaTypings.Name.Style
import SchemaTypings.Value.Basic

/-!
# Converting names with a memory

A sanitizer remembers each conversion under everything that it was asked with: the name, the style in
effect and the flag that drops underscores. Any value that can be a key is a flag; equal flags share
what is remembered, flags that are only both true do not.
-/

namespace SchemaTypings

structure NameSanitizer where
  defaultStyle : NameStyle
  memory : Table (String × NameStyle × Value.Key) String := []

namespace NameSanitizer

/-- The conversion, from memory if it was made before; without a style the default one. A true flag
drops underscores. -/
def sanitize (s : NameSanitizer) (name : String) (style : Option NameStyle)
    (dropUnderscores : Value.Key) : String × NameSanitizer :=
  let style := style.getD s.defaultStyle
  match Table.get? s.memory (name, style, dropUnderscores) with
  | some known => (known, s)
  | none =>
    let converted := style.applyParts name dropUnderscores.truthy
    (converted, { s with memory := Table.put s.memory (name, style, dropUnderscores) converted })

/-- Forgets all conversions. -/
def reset (s : NameSanitizer) : NameSanitizer := { s with memory := [] }

def remembered (s : NameSanitizer) : Nat := s.memory.length

end NameSanitizer

end SchemaTypings
