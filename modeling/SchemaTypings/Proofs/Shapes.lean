import SchemaTypings.Proofs.Emission

/-!
# The shape of a schema

What a run refers to, imports and looks up behind an interface depends on the shape of a schema
alone: on what its types are, and on which of them they name as interfaces and members. Notes,
directives, fields and values play no part in it.
-/

open SchemaTypings.Outcome

namespace SchemaTypings

/-! ## Shapes -/

def TypeBody.shape : TypeBody → TypeBody
  | scalar => scalar
  | object interfaces _ => object interfaces []
  | interface interfaces _ => interface interfaces []
  | union members => union members
  | enum _ => enum (.ok [])
  | input _ _ => input false []

/-- A type without all that stands in it, but for what it names as a whole. -/
def NamedType.shape (t : NamedType) : NamedType :=
  { name := t.name, description := .null, directives := [], body := t.body.shape }

theorem NamedType.isScalar_shape (t : NamedType) : t.shape.isScalar = t.isScalar := by
  unfold isScalar shape
  cases t.body <;> rfl

theorem NamedType.interfaces_shape (t : NamedType) : t.shape.interfaces = t.interfaces := by
  unfold interfaces shape
  cases t.body <;> rfl

namespace Schema

def shape (s : Schema) : Schema := { types := s.types.map NamedType.shape, directives := [] }

variable (s : Schema)

theorem userTypes_shape : s.shape.userTypes = s.userTypes.map NamedType.shape := by
  unfold userTypes shape
  rw [List.filter_map]
  rfl

theorem find?_shape (name : String) : s.shape.find? name = (s.find? name).map NamedType.shape := by
  have hintrospection : introspection = introspection.map NamedType.shape := by
    rw [introspection, List.map_append, List.map_map, List.map_map]
    rfl
  have htypes : s.shape.types ++ introspection = (s.types ++ introspection).map NamedType.shape := by
    rw [List.map_append, ← hintrospection]
    rfl
  unfold find?
  rw [htypes, List.find?_map]
  rfl

/-! ## Types behind an interface -/

theorem directObjects_shape (i : String) : s.shape.directObjects i = s.directObjects i := by
  unfold directObjects shape
  rw [List.flatMap_map]
  congr
  funext t
  unfold NamedType.shape
  cases t.body <;> rfl

theorem directInterfaces_shape (i : String) : s.shape.directInterfaces i = s.directInterfaces i := by
  unfold directInterfaces shape
  rw [List.flatMap_map]
  congr
  funext t
  unfold NamedType.shape
  cases t.body <;> rfl

theorem walkBound_shape : s.shape.walkBound = s.walkBound := by
  unfold walkBound shape
  simp only [List.length_map, List.flatMap_map, NamedType.interfaces_shape]

theorem walk_shape (fuel : Nat) :
    (∀ i state, collectObjects s.shape fuel i state = collectObjects s fuel i state) ∧
    ∀ is state, collectEach s.shape fuel is state = collectEach s fuel is state := by
  induction fuel with
  | zero =>
    refine ⟨fun i state => rfl, fun is state => ?_⟩
    cases is <;> rfl
  | succ fuel ih =>
    refine ⟨?_, ?_⟩
    · rintro i ⟨seen, found⟩
      rw [collectObjects, collectObjects, directInterfaces_shape, directObjects_shape, ih.2]
    · intro is state
      cases is with
      | nil => rfl
      | cons i is => rw [collectEach, collectEach, ih.1, ih.2]

theorem possibleTypes_shape (t : NamedType) : s.shape.possibleTypes t.shape = s.possibleTypes t := by
  have hwalk : ∀ i, s.shape.implementingObjects i = s.implementingObjects i := by
    intro i
    rw [implementingObjects, implementingObjects, walkBound_shape, (walk_shape s _).1]
  unfold possibleTypes
  cases hbody : t.body with
  | union _ | interface _ _ => simp only [NamedType.shape, hbody, TypeBody.shape, hwalk]
  | scalar | object _ _ | enum _ | input _ _ => simp only [NamedType.shape, hbody, TypeBody.shape]

end Schema

namespace Code

/-! ## What a run refers to -/

namespace Scope

variable {c : Scope} {schema : Schema}

/-- The same run over the shape of its schema. -/
def shape (c : Scope) : Scope := { c with schema := c.schema.shape }

theorem reference_shape (c : Scope) (name : String) : c.shape.reference name = c.reference name := by
  unfold reference shape
  rw [Schema.find?_shape, Option.map_map]
  cases c.schema.find? name with
  | none => rfl
  | some t =>
    simp only [Option.map_some, Function.comp, NamedType.shape]
    cases t.body <;> rfl

theorem outputReference_shape (c : Scope) (name : String) :
    c.shape.outputReference name = c.outputReference name := by
  unfold outputReference
  rw [reference_shape]
  cases himplementing : c.settings.implementingTypes with
  | false => simp only [shape, himplementing]
  | true =>
    simp only [shape, himplementing, Schema.find?_shape]
    cases c.schema.find? name with
    | none => rfl
    | some t =>
      simp only [Option.map_some, Schema.possibleTypes_shape]
      cases hbody : t.body <;> simp only [NamedType.shape, hbody, TypeBody.shape]

theorem reference_of_shape (h : schema.shape = c.schema.shape) (name : String) :
    { c with schema : Scope }.reference name = c.reference name := by
  have hscope : { c with schema : Scope }.shape = c.shape := by
    unfold shape
    rw [h]
  rw [← reference_shape, hscope, reference_shape]

theorem outputReference_of_shape (h : schema.shape = c.schema.shape) (name : String) :
    { c with schema : Scope }.outputReference name = c.outputReference name := by
  have hscope : { c with schema : Scope }.shape = c.shape := by
    unfold shape
    rw [h]
  rw [← outputReference_shape, hscope, outputReference_shape]

end Scope

/-! ## Scalars and imports -/

namespace ScalarTable

variable {schema schema' : Schema} (s : Settings)

theorem schemaScalars_shape (schema : Schema) :
    schemaScalars schema.shape = (schemaScalars schema).map NamedType.shape := by
  unfold schemaScalars
  rw [Schema.userTypes_shape, List.filter_map]
  congr
  funext t
  exact t.isScalar_shape

theorem unknownScalar_shape (schema : Schema) :
    unknownScalar? schema.shape s = unknownScalar? schema s := by
  unfold unknownScalar?
  rw [schemaScalars_shape]
  simp only [List.find?_map, Option.map_map]
  rfl

theorem namesToResolve_shape (schema : Schema) :
    namesToResolve schema.shape s = namesToResolve schema s := by
  unfold namesToResolve
  rw [schemaScalars_shape, List.map_map]
  rfl

theorem unknownScalar_of_shape (h : schema'.shape = schema.shape) :
    unknownScalar? schema' s = unknownScalar? schema s := by
  rw [← unknownScalar_shape, h, unknownScalar_shape]

theorem namesToResolve_of_shape (h : schema'.shape = schema.shape) :
    namesToResolve schema' s = namesToResolve schema s := by
  rw [← namesToResolve_shape, h, namesToResolve_shape]

end ScalarTable

theorem gather_shape (schema : Schema) (s : Settings) (t : ScalarTable) :
    Emission.gather schema.shape s t = Emission.gather schema s t := by
  have henums : schema.shape.userTypes.filter Emission.isEnum =
      (schema.userTypes.filter Emission.isEnum).map NamedType.shape := by
    rw [Schema.userTypes_shape, List.filter_map]
    congr
    funext t
    simp only [Function.comp, Emission.isEnum, NamedType.shape]
    cases t.body <;> rfl
  unfold Emission.gather
  rw [henums]
  simp only [List.foldlM_map]
  rfl

theorem gather_of_shape {schema schema' : Schema} (h : schema'.shape = schema.shape) (s : Settings)
    (t : ScalarTable) : Emission.gather schema' s t = Emission.gather schema s t := by
  rw [← gather_shape, h, gather_shape]

end Code

end SchemaTypings
