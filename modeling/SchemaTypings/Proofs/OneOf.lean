import Mathlib.Data.Finset.Card
import SchemaTypings.Proofs.Emission
import SchemaTypings.Proofs.FieldNames

/-!
# Inputs of which one field is given

Such an input becomes a union with a variant for each field. A set of fields fits a variant if it is
the field of that variant alone, so of all sets those with one field fit, each a single variant.
-/

open SchemaTypings.Outcome

namespace SchemaTypings.Code

/-! ## Fields that fit a variant -/

/-- All fields that a variant requires are given, and none that it forbids. -/
def Variant.Admits (v : Variant) (given : Finset String) : Prop :=
  ∀ f ∈ v, (f.type.isSome = true → f.name ∈ given) ∧ (f.type.isNone = true → f.name ∉ given)

instance (v : Variant) (given : Finset String) : Decidable (Variant.Admits v given) :=
  inferInstanceAs (Decidable (∀ f ∈ v, _ ∧ _))

namespace Scope

/-- The type of a field that is given: the directive that it is mapped to, or what it would be as a
field of any other input without the outermost `InputMaybe`. -/
def GivenAs (c : Scope) (i : InputValue) (type : TypeExpr Reference) : Prop :=
  match c.override? i.directives with
  | some o => type = { wrappers := [], core := o }
  | none => ∃ core, c.reference i.type.name = .ok core ∧
    c.settings.inputExpr i.type core =
      { wrappers := .inputMaybe :: type.wrappers, core := type.core } ∧
    (c.settings.inputExpr i.type core).render Reference.render =
      "InputMaybe<" ++ type.render Reference.render ++ ">"

/-- A variant lists all fields in order, requires one of them and forbids the others. -/
structure Gives (c : Scope) (fields : List InputValue) (given : InputValue) (v : Variant) :
    Prop where
  names : v.map VariantField.name = fields.map InputValue.name
  required : ∀ f ∈ v, f.type.isSome = true ↔ f.name = given.name
  typed : ∀ f ∈ v, ∀ type, f.type = some type → c.GivenAs given type

structure ExactlyOne (c : Scope) (fields : List InputValue) (variants : List Variant) :
    Prop where
  given : List.Forall₂ (c.Gives fields) fields variants
  admitted : ∀ given : Finset String, (∀ name ∈ given, name ∈ fields.map InputValue.name) →
    variants.countP (fun v => decide (Variant.Admits v given)) = if given.card = 1 then 1 else 0

variable {c : Scope} {fields : List InputValue} {i : InputValue} {v : Variant}

theorem Gives.admits_iff (h : c.Gives fields i v) (hi : i.name ∈ fields.map InputValue.name)
    {given : Finset String} (hgiven : ∀ name ∈ given, name ∈ fields.map InputValue.name) :
    Variant.Admits v given ↔ given = {i.name} := by
  rw [← h.names] at hi hgiven
  constructor
  · intro hadmits
    ext name
    rw [Finset.mem_singleton]
    constructor
    · intro hname
      obtain ⟨f, hf, rfl⟩ := List.mem_map.mp (hgiven name hname)
      cases htype : f.type with
      | none => exact absurd hname ((hadmits f hf).2 (by rw [htype]; rfl))
      | some type => exact (h.required f hf).mp (by rw [htype]; rfl)
    · rintro rfl
      obtain ⟨f, hf, hfi⟩ := List.mem_map.mp hi
      rw [← hfi]
      exact (hadmits f hf).1 ((h.required f hf).mpr hfi)
  · rintro rfl f hf
    rw [Finset.mem_singleton, ← h.required f hf, Option.isNone_iff_eq_none,
      Option.isSome_iff_ne_none]
    exact ⟨id, not_not_intro⟩

theorem countP_admits {given : List InputValue} {variants : List Variant}
    (h : List.Forall₂ (c.Gives fields) given variants) (hsub : given ⊆ fields)
    {names : Finset String} (hnames : ∀ name ∈ names, name ∈ fields.map InputValue.name) :
    variants.countP (fun v => decide (Variant.Admits v names)) =
      (given.map InputValue.name).countP fun name => decide (names = {name}) := by
  induction h with
  | nil => rfl
  | cons hv _ ih =>
    rw [List.cons_subset] at hsub
    rw [List.map_cons, List.countP_cons, List.countP_cons, ih hsub.2]
    simp only [hv.admits_iff (List.mem_map.mpr ⟨_, hsub.1, rfl⟩) hnames]

theorem countP_singleton {names : List String} (h : names.Nodup) {given : Finset String}
    (hgiven : ∀ name ∈ given, name ∈ names) :
    names.countP (fun name => decide (given = {name})) = if given.card = 1 then 1 else 0 := by
  by_cases hcard : given.card = 1
  · obtain ⟨only, rfl⟩ := Finset.card_eq_one.mp hcard
    have hcount := List.count_eq_one_of_mem h (hgiven only (Finset.mem_singleton_self only))
    rw [if_pos hcard, ← hcount, List.count]
    refine List.countP_congr fun name _ => ?_
    rw [decide_eq_true_iff, Finset.singleton_inj, beq_iff_eq, eq_comm]
  · rw [if_neg hcard, List.countP_eq_zero]
    intro name _ heq
    rw [of_decide_eq_true heq, Finset.card_singleton] at hcard
    exact hcard rfl

theorem exactlyOne_of_given {variants : List Variant}
    (hdistinct : (fields.map InputValue.name).Nodup)
    (h : List.Forall₂ (c.Gives fields) fields variants) : c.ExactlyOne fields variants where
  given := h
  admitted := by
    intro given hgiven
    rw [countP_admits h (List.Subset.refl _) hgiven, countP_singleton hdistinct hgiven]

/-! ## The variants that are declared -/

theorem inputExpr_of_nullable (s : Settings) {t : TypeRef} (ht : t.nullable = true)
    (core : Reference) :
    s.inputExpr t core =
      { wrappers := .inputMaybe :: (s.requiredInputExpr t core).wrappers,
        core := (s.requiredInputExpr t core).core } := by
  cases t <;> simp_all [TypeRef.nullable, Settings.inputExpr, Settings.requiredInputExpr,
    TypeRef.required, levelWrappers]

theorem givenAs_requiredType (hnull : i.type.nullable = true) {type : TypeExpr Reference}
    (h : c.requiredType i = .ok type) : c.GivenAs i type := by
  unfold GivenAs
  rcases requiredType_ok h with ⟨o, ho, htype⟩ | ⟨ho, core, hcore, rfl⟩
  · rw [ho]
    exact htype
  · rw [ho]
    refine ⟨core, hcore, inputExpr_of_nullable c.settings hnull core, ?_⟩
    rw [inputExpr_of_nullable c.settings hnull core]
    rfl

theorem gives_of_variant {input : String} (h : c.variant input fields i = .ok v) :
    c.Gives fields i v := by
  obtain ⟨hnull, type, htype, rfl⟩ := variant_ok h
  refine ⟨by simp, ?_, ?_⟩
  · intro f hf
    obtain ⟨field, _, rfl⟩ := List.mem_map.mp hf
    simp only
    split <;> simp_all
  · intro f hf type' htype'
    obtain ⟨field, _, rfl⟩ := List.mem_map.mp hf
    simp only [ite_eq_iff, Option.some.injEq, reduceCtorEq, and_false, or_false] at htype'
    exact htype'.2 ▸ givenAs_requiredType hnull htype

/-! ## When there are variants -/

/-- The type of a field can be referred to: it is mapped to a directive, it is no enum, or it is an
enum whose place can be told. -/
def Readable (c : Scope) (i : InputValue) : Prop :=
  c.override? i.directives = none →
    ∀ values, (c.schema.find? i.type.name).map NamedType.body = some (.enum values) →
      ∃ external, c.settings.externalEnum? i.type.name = .ok external

theorem exists_reference {name : String}
    (h : ∀ values, (c.schema.find? name).map NamedType.body = some (.enum values) →
      ∃ external, c.settings.externalEnum? name = .ok external) :
    ∃ r, c.reference name = .ok r := by
  unfold reference
  split
  · exact ⟨_, rfl⟩
  · next values hbody =>
    obtain ⟨external, hexternal⟩ := h values hbody
    unfold Settings.enumIdentifier
    rw [hexternal]
    exact ⟨_, rfl⟩
  · exact ⟨_, rfl⟩

theorem exists_requiredType (h : c.Readable i) : ∃ type, c.requiredType i = .ok type := by
  unfold requiredType
  cases ho : c.override? i.directives with
  | some o => exact ⟨_, rfl⟩
  | none =>
    obtain ⟨core, hcore⟩ := exists_reference (h ho)
    exact ⟨_, by rw [hcore]; rfl⟩

theorem exists_variant (input : String) (fields : List InputValue)
    (hnull : i.type.nullable = true) (h : c.Readable i) :
    ∃ v, c.variant input fields i = .ok v := by
  obtain ⟨type, htype⟩ := exists_requiredType h
  unfold variant
  rw [hnull, htype]
  exact ⟨_, rfl⟩

theorem variant_of_required (input : String) (fields : List InputValue)
    (hnull : i.type.nullable = false) :
    c.variant input fields i = .error (.oneOfField input i.name) := by
  unfold variant
  rw [hnull]
  rfl

theorem declarationsFor_oneOf {t : NamedType} {flag : Bool} (hbody : t.body = .input flag fields)
    (hone : t.isOneOf = true) :
    c.declarationsFor t = (fields.mapM (c.variant t.name fields)).map fun variants =>
      [c.declareType t (.oneOf c.settings.immutable variants)] := by
  unfold declarationsFor
  simp only [hbody, hone, if_true]
  cases fields.mapM (c.variant t.name fields) <;> rfl

/-- There is such an input, with these names of fields; a field is marked if it may be missing. -/
def HasOneOf (schema : Schema) (name : String) (shape : List (String × Bool)) : Prop :=
  ∃ t ∈ schema.types, t.name = name ∧ t.isOneOf = true ∧ ∃ flag fields,
    t.body = .input flag fields ∧ (fields.map fun i => (i.name, i.type.nullable)) = shape

def hasOneOf (schema : Schema) (name : String) (shape : List (String × Bool)) : Bool :=
  schema.types.any fun t => t.name = name && t.isOneOf &&
    match t.body with
    | .input _ fields => (fields.map fun i => (i.name, i.type.nullable)) = shape
    | _ => false

theorem hasOneOf_iff {schema : Schema} {name : String} {shape : List (String × Bool)} :
    hasOneOf schema name shape = true ↔ HasOneOf schema name shape := by
  unfold hasOneOf HasOneOf
  rw [List.any_eq_true]
  refine exists_congr fun t => and_congr_right fun _ => ?_
  cases t.body <;> simp [and_assoc]

def pairText : String :=
  "directive @mapped on INPUT_FIELD_DEFINITION " ++
  "input One @oneOf \x7b a: [Int!] b: String @mapped \x7d input Two @oneOf \x7b a: Int b: Int! \x7d"

/-- Nothing is configured for enums, so each of them is a local one. -/
def localEnumsOnly (s : Settings) : Bool :=
  match s.enumValues with
  | .table [] => true
  | _ => false

theorem readable_of_localEnumsOnly (h : localEnumsOnly c.settings = true) (i : InputValue) :
    c.Readable i := by
  intro _ _ _
  unfold localEnumsOnly at h
  unfold Settings.externalEnum?
  split at h
  · next hvalues =>
    rw [hvalues]
    exact ⟨none, rfl⟩
  · cases h

def stopsAtSymbol (schema : Schema) (s : Settings) : Bool :=
  match emit schema s with
  | .error (.mapping (.symbolNotText (.int 5))) => true
  | _ => false

end Scope

end SchemaTypings.Code
