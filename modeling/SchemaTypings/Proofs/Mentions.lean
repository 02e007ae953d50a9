import SchemaTypings.Proofs.Implementers
import SchemaTypings.Proofs.TypeMap

/-!
# Where a schema names types

Each type that another one names is mentioned there: at a field, an argument or an input field, or
in a list of interfaces or members. Where the names of a schema make sense, the type is found.
-/

namespace SchemaTypings

/-- A place where a type names another: in a list of interfaces or members, at a field, or at an
argument or input field with its directives. -/
inductive Mention where
  | listed (type : String)
  | output (member type : String)
  | input (member type : String) (directives : List String)

namespace Mention

def type : Mention → String
  | listed type | output _ type | input _ type _ => type

def member : Mention → Option String
  | listed _ => none
  | output member _ | input member _ _ => some member

end Mention

def InputValue.mention (i : InputValue) : Mention := .input i.name i.type.name i.directives

def NamedType.mentions (t : NamedType) : List Mention :=
  match t.body with
  | .object interfaces fields | .interface interfaces fields =>
    interfaces.map .listed ++ fields.flatMap fun f =>
      .output f.name f.type.name :: f.arguments.map InputValue.mention
  | .union members => members.map .listed
  | .input _ fields => fields.map InputValue.mention
  | .scalar | .enum _ => []

theorem type_mem_namedBy {t : NamedType} {m : Mention} (hm : m ∈ t.mentions) :
    m.type ∈ Schema.namedBy t := by
  unfold NamedType.mentions at hm
  unfold Schema.namedBy
  cases hb : t.body with
  | scalar | enum _ => simp [hb] at hm
  | object interfaces fields | interface interfaces fields =>
    simp only [hb, List.mem_append, List.mem_map, List.mem_flatMap, List.mem_cons] at hm ⊢
    rcases hm with ⟨i, hi, rfl⟩ | ⟨f, hf, rfl | ⟨a, ha, rfl⟩⟩
    · exact Or.inl hi
    · exact Or.inr ⟨f, hf, Or.inl rfl⟩
    · exact Or.inr ⟨f, hf, Or.inr ⟨a, ha, rfl⟩⟩
  | union members =>
    simp only [hb, List.mem_map] at hm ⊢
    obtain ⟨i, hi, rfl⟩ := hm
    exact hi
  | input oneOf fields =>
    simp only [hb, List.mem_map] at hm ⊢
    obtain ⟨a, ha, rfl⟩ := hm
    exact ⟨a, ha, rfl⟩

/-! ## Schemas whose names make sense -/

namespace Schema

def isAbstract (t : NamedType) : Bool :=
  match t.body with
  | .interface .. | .union _ => true
  | _ => false

def unionMembers (t : NamedType) : List String :=
  match t.body with
  | .union members => members
  | _ => []

/-- Rules on names that building a schema does not check. -/
structure Sensible (schema : Schema) : Prop where
  /-- No type has a reserved name. -/
  unreserved : ∀ t ∈ schema.types, isReserved t.name = false
  /-- No type refers to those in which schemas describe themselves. -/
  plain : ∀ t ∈ schema.types, ∀ n ∈ namedBy t, n ∉ Sdl.introspectionTypes
  interfaces : ∀ t ∈ schema.types, ∀ i ∈ t.interfaces, (schema.find? i).any isInterface = true
  members : ∀ t ∈ schema.types, ∀ m ∈ unionMembers t, (schema.find? m).any isObject = true

instance (schema : Schema) : Decidable schema.Sensible :=
  decidable_of_iff
    ((∀ t ∈ schema.types, isReserved t.name = false) ∧
      (∀ t ∈ schema.types, ∀ n ∈ namedBy t, n ∉ Sdl.introspectionTypes) ∧
      (∀ t ∈ schema.types, ∀ i ∈ t.interfaces, (schema.find? i).any isInterface = true) ∧
      ∀ t ∈ schema.types, ∀ m ∈ unionMembers t, (schema.find? m).any isObject = true)
    ⟨fun ⟨a, b, c, d⟩ => ⟨a, b, c, d⟩, fun ⟨a, b, c, d⟩ => ⟨a, b, c, d⟩⟩

theorem find?_of_mem {schema : Schema} {n : String} (h : ∃ u ∈ schema.types, u.name = n) :
    ∃ u ∈ schema.types, u.name = n ∧ schema.find? n = some u := by
  have hsome : (schema.types.find? fun t => t.name = n).isSome := by
    rw [List.find?_isSome]
    simpa using h
  obtain ⟨u, hu⟩ := Option.isSome_iff_exists.mp hsome
  refine ⟨u, List.mem_of_find?_eq_some hu, by simpa using List.find?_some hu, ?_⟩
  unfold find?
  rw [List.find?_append, hu]
  rfl

theorem Sensible.mem_userTypes {schema : Schema} (h : schema.Sensible) {t : NamedType}
    (ht : t ∈ schema.types) : t ∈ schema.userTypes := by
  rw [userTypes, List.mem_filter, h.unreserved t ht]
  exact ⟨ht, rfl⟩

theorem Sensible.found {schema : Schema} (h : schema.Sensible) {text : String}
    (hbuilt : ofText text = .ok schema) {t : NamedType} (ht : t ∈ schema.types) {n : String}
    (hn : n ∈ namedBy t) : ∃ u ∈ schema.types, u.name = n ∧ schema.find? n = some u := by
  rcases ofText_closed hbuilt ht hn with hin | hintro
  · exact find?_of_mem hin
  · exact absurd hintro (h.plain t ht n hn)

end Schema

end SchemaTypings
