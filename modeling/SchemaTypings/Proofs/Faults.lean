import SchemaTypings.Generator.Run
import SchemaTypings.Proofs.OneOf
import SchemaTypings.Proofs.Readable
import SchemaTypings.Proofs.TextLimits

/-!
# When a run fails

A run over a schema from a text, under settings that can be read, fails for a scalar without a
mapping, for a required field of which one is given, or for an enum whose values cannot be told or
cannot be put into text. It has an output otherwise.
-/

open SchemaTypings.Outcome

namespace SchemaTypings

/-! ## Descriptions -/

def Note.Plain (note : Note) : Prop := note = .null ∨ ∃ s, note = .text s

theorem Note.plain_ofText? (text : Option String) : Note.Plain (Note.ofText? text) := by
  cases text with
  | none => exact Or.inl rfl
  | some s => exact Or.inr ⟨s, rfl⟩

/-- The descriptions of the parts of a type are plain. -/
def NamedType.PlainNotes (t : NamedType) : Prop :=
  match t.body with
  | .object _ fields | .interface _ fields =>
    ∀ f ∈ fields, Note.Plain f.description ∧ ∀ a ∈ f.arguments, Note.Plain a.description
  | .input _ fields => ∀ i ∈ fields, Note.Plain i.description
  | .enum values => ∀ vs, values = .ok vs → ∀ v ∈ vs, Note.Plain v.description
  | .scalar | .union _ => True

namespace Schema

open Sdl (InputDef FieldDef EnumValueDef TypeDef)

theorem plain_inputs {ds : List InputDef} {is : List InputValue} (h : ds.mapM inputOf = .ok is) :
    ∀ i ∈ is, Note.Plain i.description := by
  intro i hi
  obtain ⟨d, _, hd⟩ := exists_of_mem_mapM h hi
  obtain ⟨_, _, hd⟩ := bind_eq_ok.mp hd
  rw [pure_eq_ok] at hd
  rw [← hd]
  exact Note.plain_ofText? d.description

theorem plain_fields {ds : List FieldDef} {fs : List Field} (h : ds.mapM fieldOf = .ok fs) :
    ∀ f ∈ fs, Note.Plain f.description ∧ ∀ a ∈ f.arguments, Note.Plain a.description := by
  intro f hf
  obtain ⟨d, _, hd⟩ := exists_of_mem_mapM h hf
  obtain ⟨arguments, harguments, hd⟩ := bind_eq_ok.mp hd
  obtain ⟨_, _, hd⟩ := bind_eq_ok.mp hd
  rw [pure_eq_ok] at hd
  rw [← hd]
  exact ⟨Note.plain_ofText? d.description, plain_inputs harguments⟩

theorem plain_values {ds : List EnumValueDef} {vs : List EnumValue}
    (h : ds.mapM enumValueOf = .ok vs) : ∀ v ∈ vs, Note.Plain v.description := by
  intro v hv
  obtain ⟨d, _, hd⟩ := exists_of_mem_mapM h hv
  obtain ⟨_, _, hd⟩ := bind_eq_ok.mp hd
  rw [pure_eq_ok] at hd
  rw [← hd]
  exact Note.plain_ofText? d.description

theorem plainNotes_of_ofText {text : String} {schema : Schema} (h : ofText text = .ok schema) :
    ∀ t ∈ schema.types, t.PlainNotes := by
  intro t ht
  rcases ofText_origin h ht with ⟨name, _, rfl⟩ | ⟨doc, d, _, _, _, htype⟩
  · trivial
  · have hparts := assembled_of_typeOf htype
    unfold NamedType.PlainNotes
    generalize t.body = body at hparts
    cases hparts with
    | scalar | union => trivial
    | object hfields | interface hfields => exact plain_fields hfields
    | input hinputs => exact plain_inputs hinputs
    | enum => exact fun _ hvalues => plain_values hvalues

/-- The values of an enum that a text defines fail for a notice alone. -/
theorem badNotice_of_ofText {text : String} {schema : Schema} (h : ofText text = .ok schema)
    {t : NamedType} (ht : t ∈ schema.types) {fault : ValuesFault}
    (hbody : t.body = .enum (.error fault)) : ∃ value, fault = .badNotice value := by
  rcases ofText_origin h ht with ⟨name, _, rfl⟩ | ⟨doc, d, _, _, _, htype⟩
  · cases hbody
  · have hparts := assembled_of_typeOf htype
    generalize t.body = body at hparts hbody
    -- Only the notices of the values are looked at when an enum is put together.
    cases hparts with
    | enum =>
      obtain ⟨v, _, hv⟩ := exists_of_mapM_error (TypeBody.enum.inj hbody)
      refine ⟨v.name, ?_⟩
      unfold enumValueOf at hv
      cases hnotice : deprecationOf v.directives with
      | error e =>
        rw [hnotice] at hv
        cases hv
        rfl
      | ok notice =>
        rw [hnotice] at hv
        cases hv
    | scalar | object | interface | union | input => cases hbody

end Schema

namespace Code

/-! ## Members -/

namespace Scope

variable {c : Scope}

theorem readable_of_settings (hs : c.settings.Readable) (i : InputValue) : c.Readable i := by
  intro _ _ _
  obtain ⟨external, hexternal, _⟩ := Settings.exists_externalEnum hs i.type.name
  exact ⟨external, hexternal⟩

theorem exists_reference_of_settings (hs : c.settings.Readable) (name : String) :
    ∃ r, c.reference name = .ok r := by
  apply exists_reference
  intro _ _
  obtain ⟨external, hexternal, _⟩ := Settings.exists_externalEnum hs name
  exact ⟨external, hexternal⟩

theorem exists_outputReference (hs : c.settings.Readable) (name : String) :
    ∃ r, c.outputReference name = .ok r := by
  unfold outputReference
  split
  · split
    · exact ⟨_, rfl⟩
    · exact ⟨_, rfl⟩
    · exact exists_reference_of_settings hs name
  · exact exists_reference_of_settings hs name

theorem exists_comment {description : Note} (h : Note.Plain description) (deprecation : Note) :
    ∃ comment, c.comment description deprecation = .ok comment := by
  have hlines : ∃ lines, descriptionLines description (!c.settings.noDescriptions) = .ok lines := by
    unfold descriptionLines
    split
    · exact ⟨[], rfl⟩
    · next htrue =>
      rcases h with rfl | ⟨s, rfl⟩
      · simp [Value.truthy] at htrue
      · exact ⟨[s], rfl⟩
  obtain ⟨lines, hlines⟩ := hlines
  unfold comment note?
  rw [hlines]
  exact ⟨_, rfl⟩

theorem exists_outputMember (hs : c.settings.Readable) {f : Field}
    (h : Note.Plain f.description) : ∃ a, c.outputMember f = .ok a := by
  obtain ⟨core, hcore⟩ := exists_outputReference hs f.type.name
  obtain ⟨comment, hcomment⟩ := c.exists_comment h f.deprecation
  unfold outputMember
  rw [hcore, hcomment]
  exact ⟨_, rfl⟩

theorem exists_inputMember (hs : c.settings.Readable) {i : InputValue}
    (h : Note.Plain i.description) : ∃ a, c.inputMember i = .ok a := by
  obtain ⟨core, hcore⟩ := exists_reference_of_settings hs i.type.name
  obtain ⟨comment, hcomment⟩ := c.exists_comment h i.deprecation
  unfold inputMember
  rw [hcore, hcomment]
  cases c.override? i.directives with
  | some o => exact ⟨_, rfl⟩
  | none => exact ⟨_, rfl⟩

theorem exists_argumentBags (hs : c.settings.Readable) (owner : String) {fields : List Field}
    (h : ∀ f ∈ fields, Note.Plain f.description ∧ ∀ a ∈ f.arguments, Note.Plain a.description) :
    ∃ bags, c.argumentBags owner fields = .ok bags := by
  apply exists_mapM
  intro f hf
  have hf : f ∈ fields := List.mem_of_mem_filter hf
  obtain ⟨members, hmembers⟩ :=
    exists_mapM fun a ha => exists_inputMember hs ((h f hf).2 a ha)
  unfold argumentBag
  rw [hmembers]
  exact ⟨_, rfl⟩

end Scope

/-! ## Faults -/

/-- The limit that the literal of an enum's value runs into. -/
def valueFault? (room : Room) (m : EnumMember) : Option EmitError :=
  (m.value.limit? room.literal).map .unwritable

def typeFault? (s : Settings) (room : Room) (t : NamedType) : Option EmitError :=
  match t.body with
  | .input _ fields =>
    if t.isOneOf then
      fields.findSome? fun i => if i.type.nullable then none else some (.oneOfField t.name i.name)
    else none
  | .enum (.error fault) => if s.isExternalEnum t.name then none else some (.values fault)
  | .enum (.ok values) =>
    if s.isExternalEnum t.name then none
    else (s.enumMembers t.name values).findSome? (valueFault? room)
  | _ => none

namespace Scope

variable {c : Scope}

theorem settles_variant (hs : c.settings.Readable) (input : String) (fields : List InputValue)
    (i : InputValue) :
    Settles (c.variant input fields i)
      (if i.type.nullable then none else some (.oneOfField input i.name)) := by
  cases hnull : i.type.nullable with
  | true => exact exists_variant input fields hnull (readable_of_settings hs i)
  | false => exact variant_of_required input fields hnull

theorem settles_enumLine {m : EnumMember} (hplain : Note.Plain m.description) :
    Settles (c.enumLine m) (valueFault? c.room m) := by
  have hcomment : Settles (c.comment m.description m.deprecation) none :=
    c.exists_comment hplain m.deprecation
  have htext : Settles (m.value.checkText c.room.literal) (m.value.limit? c.room.literal) := by
    unfold Value.checkText
    cases m.value.limit? c.room.literal with
    | some l => exact rfl
    | none => exact ⟨(), rfl⟩
  have hline := (htext.mapError EmitError.unwritable).bind fun _ _ =>
    hcomment.bind_pure fun comment => ({ member := m, comment } : EnumLine)
  rwa [Option.or_none] at hline

theorem settles_localEnum (t : NamedType) {values : List EnumValue}
    (hplain : ∀ v ∈ values, Note.Plain v.description) :
    Settles (c.localEnum t values)
      ((c.settings.enumMembers t.name values).findSome? (valueFault? c.room)) := by
  refine (settles_mapM fun m hm => settles_enumLine ?_).bind_pure _
  obtain ⟨⟨⟨v, key⟩, index⟩, hv, rfl⟩ := List.mem_map.mp hm
  exact hplain v (List.of_mem_zip (List.fst_mem_of_mem_zipIdx hv)).1

theorem settles_enum (hs : c.settings.Readable) {t : NamedType}
    {values : Except ValuesFault (List EnumValue)} (hbody : t.body = .enum values)
    (hplain : ∀ vs, values = .ok vs → ∀ v ∈ vs, Note.Plain v.description) :
    Settles (c.declarationsFor t) (typeFault? c.settings c.room t) := by
  obtain ⟨external, hexternal, hisSome, _⟩ := Settings.exists_externalEnum hs t.name
  have hexternal : mapError (c.settings.externalEnum? t.name) = .ok external :=
    mapError_eq_ok.mpr hexternal
  unfold declarationsFor typeFault?
  simp only [hbody, hexternal]
  cases external with
  | some mapper =>
    rw [← hisSome]
    cases values with
    | error fault => exact settles_pure []
    | ok vs => exact settles_pure []
  | none =>
    rw [← hisSome]
    cases values with
    | error fault => exact rfl
    | ok vs => exact (settles_localEnum t (hplain vs rfl)).bind_pure fun d => [d]

theorem settles_declarationsFor (hs : c.settings.Readable) {t : NamedType} (hplain : t.PlainNotes) :
    Settles (c.declarationsFor t) (typeFault? c.settings c.room t) := by
  unfold NamedType.PlainNotes at hplain
  cases hbody : t.body with
  | enum values =>
    rw [hbody] at hplain
    exact settles_enum hs hbody hplain
  | scalar =>
    unfold declarationsFor typeFault?
    rw [hbody]
    exact settles_pure []
  | object interfaces fields | interface interfaces fields =>
    rw [hbody] at hplain
    obtain ⟨members, hmembers⟩ := exists_mapM fun f hf => exists_outputMember hs (hplain f hf).1
    -- Nothing in objects and interfaces can fail once the settings are readable.
    obtain ⟨bags, hbags⟩ := exists_argumentBags hs t.name hplain
    unfold declarationsFor typeFault?
    simp only [hbody, hmembers, hbags]
    exact ⟨_, rfl⟩
  | union members =>
    obtain ⟨references, hreferences⟩ :=
      exists_mapM fun m (_ : m ∈ members) => exists_reference_of_settings hs m
    unfold declarationsFor typeFault?
    simp only [hbody, hreferences]
    exact ⟨_, rfl⟩
  | input flag fields =>
    rw [hbody] at hplain
    cases hone : t.isOneOf with
    | true =>
      rw [declarationsFor_oneOf hbody hone]
      unfold typeFault?
      simp only [hbody, hone, if_true]
      exact (settles_mapM fun i _ => settles_variant hs t.name fields i).map _
    | false =>
      obtain ⟨members, hmembers⟩ := exists_mapM fun i hi => exists_inputMember hs (hplain i hi)
      unfold declarationsFor typeFault?
      simp only [hbody, hone, hmembers]
      exact ⟨_, rfl⟩

end Scope

/-! ## The first fault of a run -/

/-- A scalar that is neither built in nor mapped, where scalars are checked strictly. -/
def isUnknown (s : Settings) (t : NamedType) : Bool :=
  s.strictScalars && t.isScalar && !t.isBuiltinScalar &&
    match s.scalars with
    | .table entries => !Table.has entries t.name
    | .module _ => false

/-- All scalars are checked before the other types are looked at. -/
def firstFault? (schema : Schema) (s : Settings) (room : Room) : Option EmitError :=
  ((schema.userTypes.find? (isUnknown s)).map fun t => .unknownScalar t.name).or
    (schema.userTypes.findSome? (typeFault? s room))

theorem unknownScalar?_eq (schema : Schema) (s : Settings) :
    ScalarTable.unknownScalar? schema s =
      (schema.userTypes.find? (isUnknown s)).map NamedType.name := by
  unfold ScalarTable.unknownScalar? ScalarTable.schemaScalars isUnknown
  cases s.strictScalars with
  | false => simp
  | true =>
    cases s.scalars with
    | module path => simp
    | table entries =>
      simp only [List.find?_filter]
      congr 2
      funext t
      simp [Bool.and_assoc]

variable {schema : Schema} {s : Settings} {room : Room}

theorem settles_emit {text : String} (hbuilt : Schema.ofText text = .ok schema) (hs : s.Readable) :
    Settles (emit schema s room) (firstFault? schema s room) := by
  have hplain := Schema.plainNotes_of_ofText hbuilt
  have hscalars : Settles (ScalarTable.ofSchema schema s)
      ((schema.userTypes.find? (isUnknown s)).map fun t => .unknownScalar t.name) := by
    have hsettles := @ScalarTable.settles_ofSchema schema s hs
    rw [unknownScalar?_eq, Option.map_map] at hsettles
    exact hsettles
  unfold emit Emission.ofSchema
  rw [bind_assoc]
  refine hscalars.bind fun scalars hok => ?_
  obtain ⟨mapped, ledger, hgather, hwritable⟩ := Emission.exists_gather hs hok
  obtain ⟨lines, hlines⟩ := ImportLedger.exists_importLines hwritable
  have hgather : EmitError.ofMapping (Emission.gather schema s scalars) = .ok (mapped, ledger) :=
    mapError_eq_ok.mpr hgather
  have htypes : Settles (schema.userTypes.mapM (Scope.declarationsFor ⟨schema, s, mapped, room⟩))
      (schema.userTypes.findSome? (typeFault? s room)) :=
    settles_mapM fun t ht => Scope.settles_declarationsFor hs (hplain t (List.mem_of_mem_filter ht))
  -- The imports are written last, and they can be written whatever is declared.
  have himports : Settles (EmitError.ofMapping ledger.importLines) none :=
    ⟨lines, mapError_eq_ok.mpr hlines⟩
  rw [hgather, ok_bind, bind_assoc, ← @Option.or_none _ (schema.userTypes.findSome? _)]
  exact htypes.bind fun _ _ => himports.bind_pure _

theorem firstFault?_kind {text : String} (hbuilt : Schema.ofText text = .ok schema) {e : EmitError}
    (he : firstFault? schema s room = some e) :
    (∃ name, e = .unknownScalar name) ∨ (∃ type field, e = .oneOfField type field) ∨
      (∃ value, e = .values (.badNotice value)) ∨ ∃ l, e = .unwritable l := by
  rcases Option.or_eq_some_iff.mp he with hunknown | ⟨_, htype⟩
  · obtain ⟨t, _, rfl⟩ := Option.map_eq_some_iff.mp hunknown
    exact Or.inl ⟨t.name, rfl⟩
  · obtain ⟨t, ht, hfault⟩ := List.exists_of_findSome?_eq_some htype
    unfold typeFault? at hfault
    -- Inputs of which one field is given, enums without values, and enums with them.
    split at hfault
    · split at hfault
      · obtain ⟨i, _, hi⟩ := List.exists_of_findSome?_eq_some hfault
        split at hi
        · cases hi
        · exact Or.inr (Or.inl ⟨t.name, i.name, (Option.some.inj hi).symm⟩)
      · cases hfault
    · next fault hbody =>
      split at hfault
      · cases hfault
      · obtain ⟨value, rfl⟩ := Schema.badNotice_of_ofText hbuilt (List.mem_of_mem_filter ht) hbody
        exact Or.inr (Or.inr (Or.inl ⟨value, (Option.some.inj hfault).symm⟩))
    · split at hfault
      · cases hfault
      · obtain ⟨m, _, hm⟩ := List.exists_of_findSome?_eq_some hfault
        obtain ⟨l, _, rfl⟩ := Option.map_eq_some_iff.mp hm
        exact Or.inr (Or.inr (Or.inr ⟨l, rfl⟩))
    · cases hfault

/-- The options whose texts stand in the written code. -/
def textOptions : List OptionName :=
  [.typesPrefix, .typesSuffix, .defaultScalarType, .maybeValue, .inputMaybeValue,
   .fieldWrapperValue, .entireFieldWrapperValue, .directiveMappingSuffix]

/-- The options that stand in the written code can be put into text. -/
def Legible (config : TypesConfig) (room : Room) : Prop :=
  ∀ name ∈ textOptions, (config.options name).limit? room.option = none

/-- Two errors of the four kinds are the same. -/
def EmitError.same : EmitError → EmitError → Bool
  | .unknownScalar name, .unknownScalar name' => name = name'
  | .oneOfField type field, .oneOfField type' field' => type = type' && field = field'
  | .values (.badNotice value), .values (.badNotice value') => value = value'
  | .unwritable l, .unwritable l' => l = l'
  | _, _ => false

theorem EmitError.eq_of_same {e e' : EmitError} (h : e.same e' = true) : e = e' := by
  unfold same at h
  split at h <;> simp_all

def faults (e : EmitError) (check : NamedType → Bool) (schema : Schema) (s : Settings) : Bool :=
  s.Readable && (firstFault? schema s .standard).any e.same && schema.userTypes.all check

theorem exists_of_faults {text : String} {options : Options} {e : EmitError}
    {check : NamedType → Bool} (h : reads text options (faults e check) = true) :
    ∃ (schema : Schema) (config : TypesConfig), Schema.ofText text = .ok schema ∧
      config.options = options ∧ config.settings.Readable ∧
      firstFault? schema config.settings .standard = some e ∧
      ∀ t ∈ schema.userTypes, check t = true := by
  obtain ⟨schema, s, hschema, hsettings, hcheck⟩ := exists_of_reads h
  rw [faults, Bool.and_eq_true, Bool.and_eq_true] at hcheck
  obtain ⟨⟨hs, hany⟩, hall⟩ := hcheck
  obtain ⟨e', he', hsame⟩ := (Option.any_eq_true ..).mp hany
  rw [← EmitError.eq_of_same hsame] at he'
  exact ⟨schema, ⟨options, s, .ample, hsettings⟩, hschema, rfl, of_decide_eq_true hs, he',
    List.all_eq_true.mp hall⟩

def faultyText : String := "scalar Odd input Two @oneOf \x7b a: Int b: Int! \x7d"

/-- Neither an unknown scalar nor an input of which one field is given. -/
def isHarmless (t : NamedType) : Bool := !(t.isScalar && !t.isBuiltinScalar) && !t.isOneOf

def stopsAtMark (schema : Schema) (s : Settings) : Bool :=
  match emit schema s with
  | .error (.mapping (.notAKey (.list []))) => true
  | _ => false

/-- A schema without unknown scalars and required fields gives this error. -/
def FailsHarmless (text : String) (options : Options) (e : EmitError) : Prop :=
  ∃ (schema : Schema) (config : TypesConfig), Schema.ofText text = .ok schema ∧
    config.options = options ∧ config.settings.Readable ∧
    (∀ t ∈ schema.userTypes, isHarmless t = true) ∧
    emit schema config.settings .standard = .error e

theorem failsHarmless_of_reads {text : String} {options : Options} {e : EmitError}
    (h : reads text options (faults e isHarmless) = true) : FailsHarmless text options e := by
  obtain ⟨schema, config, hschema, hoptions, hs, hfault, hharmless⟩ := exists_of_faults h
  have hrun := @settles_emit schema config.settings .standard text hschema hs
  rw [hfault] at hrun
  exact ⟨schema, config, hschema, hoptions, hs, hharmless, hrun⟩

/-- What the only value of an enum is declared with. -/
def overriding (v : Value) : Options :=
  Options.ofTable [("enum_values", .object [("E", .object [("A", v)])])]

end Code

end SchemaTypings
