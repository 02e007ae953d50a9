import SchemaTypings.Import.Mapper
import SchemaTypings.Schema.Basic
import SchemaTypings.Value.Limit

/-!
# Why a run gives no code
-/

namespace SchemaTypings.Code

open SchemaTypings (MappingError Note TextLimit ValuesFault)

inductive EmitError where
  /-- Scalars are checked strictly and this one has no mapping. -/
  | unknownScalar (name : String)
  /-- A field of which exactly one may be given cannot be required. -/
  | oneOfField (type field : String)
  | mapping (e : MappingError)
  /-- The values of an enum cannot be told. -/
  | values (fault : ValuesFault)
  /-- A value of an enum that cannot be put into text. -/
  | unwritable (l : TextLimit)
  /-- A description that is no text cannot stand among the lines of a comment. -/
  | noteNotText (given : Note)

namespace EmitError

def message : EmitError → String
  | unknownScalar name => "Unknown scalar type " ++ name
  | oneOfField _ _ =>
    "Fields on an input object type can not be non-nullable. " ++
      "It seems like the schema was not validated."
  | mapping e => e.message
  | values fault => fault.message
  | unwritable l => l.message
  | noteNotText given => "A description is no text: " ++ given.display

/-- Raises what is wrong with a mapping. -/
def ofMapping {α : Type} : Except MappingError α → Except EmitError α := Except.mapError mapping

end EmitError

end SchemaTypings.Code
