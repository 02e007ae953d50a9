import SchemaTypings.Code.Emit
import SchemaTypings.Config.Settings
import SchemaTypings.Proofs.Outcome
import SchemaTypings.Proofs.TextLimits
import SchemaTypings.Schema.Build

/-!
# What a successful run has settled

A run that gives an output has resolved its scalars, gathered its imports and declared each of its
types. The output is all of that, written.
-/

open SchemaTypings.Outcome

namespace SchemaTypings.Code

namespace Scope

/-! ## Members -/

theorem outputMember_ok {c : Scope} {f : Field} {a : Attribute} (h : c.outputMember f = .ok a) :
    ∃ core, c.outputReference f.type.name = .ok core ∧
      c.comment f.description f.deprecation = .ok a.comment ∧ a.name = f.name ∧
      a.type = c.settings.outputAttribute f.type core := by
  obtain ⟨core, hcore, h⟩ := bind_eq_ok.mp h
  obtain ⟨_, hcomment, h⟩ := bind_eq_ok.mp h
  rw [pure_eq_ok] at h
  rw [← h]
  exact ⟨core, hcore, hcomment, rfl, rfl⟩

theorem inputMember_ok {c : Scope} {i : InputValue} {a : Attribute} (h : c.inputMember i = .ok a) :
    c.comment i.description i.deprecation = .ok a.comment ∧ a.name = i.name ∧
      ((∃ o, c.override? i.directives = some o ∧
          a.type = c.settings.inputAttribute i.type i.hasDefault (some o) o) ∨
        (c.override? i.directives = none ∧ ∃ core, c.reference i.type.name = .ok core ∧
          a.type = c.settings.inputAttribute i.type i.hasDefault none core)) := by
  unfold inputMember at h
  cases ho : c.override? i.directives with
  | some o =>
    rw [ho] at h
    obtain ⟨core, hcore, h⟩ := bind_eq_ok.mp h
    obtain ⟨_, hcomment, h⟩ := bind_eq_ok.mp h
    rw [pure_eq_ok] at hcore h
    rw [← h, ← hcore]
    exact ⟨hcomment, rfl, Or.inl ⟨o, rfl, rfl⟩⟩
  | none =>
    rw [ho] at h
    obtain ⟨core, hcore, h⟩ := bind_eq_ok.mp h
    obtain ⟨_, hcomment, h⟩ := bind_eq_ok.mp h
    rw [pure_eq_ok] at h
    rw [← h]
    exact ⟨hcomment, rfl, Or.inr ⟨rfl, core, hcore, rfl⟩⟩

theorem enumLine_ok {c : Scope} {m : EnumMember} {l : EnumLine} (h : c.enumLine m = .ok l) :
    m.value.checkText c.room.literal = .ok () ∧
      c.comment m.description m.deprecation = .ok l.comment ∧ l.member = m := by
  obtain ⟨⟨⟩, htext, h⟩ := bind_eq_ok.mp h
  obtain ⟨_, hcomment, h⟩ := bind_eq_ok.mp h
  rw [pure_eq_ok] at h
  rw [← h]
  exact ⟨mapError_eq_ok.mp htext, hcomment, rfl⟩

theorem requiredType_ok {c : Scope} {i : InputValue} {type : TypeExpr Reference}
    (h : c.requiredType i = .ok type) :
    (∃ o, c.override? i.directives = some o ∧ type = { wrappers := [], core := o }) ∨
      (c.override? i.directives = none ∧ ∃ core, c.reference i.type.name = .ok core ∧
        type = c.settings.requiredInputExpr i.type core) := by
  unfold requiredType at h
  cases ho : c.override? i.directives with
  | some o =>
    simp only [ho, Except.ok.injEq] at h
    exact Or.inl ⟨o, rfl, h.symm⟩
  | none =>
    simp only [ho] at h
    obtain ⟨core, hcore, h⟩ := map_eq_ok.mp h
    exact Or.inr ⟨rfl, core, hcore, h.symm⟩

theorem variant_ok {c : Scope} {input : String} {fields : List InputValue} {given : InputValue}
    {v : Variant} (h : c.variant input fields given = .ok v) :
    given.type.nullable = true ∧ ∃ type, c.requiredType given = .ok type ∧
      v = fields.map fun f =>
        { name := f.name, type := if f.name = given.name then some type else none } := by
  unfold variant at h
  cases hnull : given.type.nullable with
  | false => simp [hnull, throw, throwThe, MonadExceptOf.throw, bind, Except.bind] at h
  | true =>
    rw [hnull] at h
    obtain ⟨type, htype, h⟩ := bind_eq_ok.mp h
    rw [pure_eq_ok] at h
    exact ⟨rfl, type, htype, h.symm⟩

/-! ## The declarations of one type -/

def declareType (c : Scope) (t : NamedType) (body : DeclarationBody) : Declaration :=
  c.declare (c.settings.typeName t.name) (c.typeComment t.description) body

/-- All that a type can give. -/
inductive Declared (c : Scope) (t : NamedType) : List Declaration → Prop
  | scalar (hbody : t.body = .scalar) : Declared c t []
  | externalEnum {values mapper} (hbody : t.body = .enum values)
      (hexternal : c.settings.externalEnum? t.name = .ok (some mapper)) : Declared c t []
  | localEnum {values lines} (hbody : t.body = .enum (.ok values))
      (hlocal : c.settings.externalEnum? t.name = .ok none)
      (hlines : (c.settings.enumMembers t.name values).mapM c.enumLine = .ok lines) :
      Declared c t [c.declare (c.settings.enumName t.name) (c.typeComment t.description)
        (.enum c.settings.enumForm c.settings.futureProofEnums lines)]
  | object {interfaces fields members bags} (hbody : t.body = .object interfaces fields)
      (hmembers : fields.mapM c.outputMember = .ok members)
      (hbags : c.argumentBags t.name fields = .ok bags) :
      Declared c t (c.declareType t (.object c.settings.kinds.object
        (interfaces.map c.settings.typeName) (c.typename t.name) members) :: bags)
  | interface {interfaces fields members bags} (hbody : t.body = .interface interfaces fields)
      (hmembers : fields.mapM c.outputMember = .ok members)
      (hbags : c.argumentBags t.name fields = .ok bags) :
      Declared c t (c.declareType t (.interface c.settings.kinds.interface
        (interfaces.map c.settings.typeName) members) :: bags)
  | union {members references} (hbody : t.body = .union members)
      (hreferences : members.mapM c.reference = .ok references) :
      Declared c t [c.declareType t (.union references
        (if c.settings.futureProofUnions then some c.settings.immutable else none))]
  | oneOf {flag fields variants} (hbody : t.body = .input flag fields) (hone : t.isOneOf = true)
      (hvariants : fields.mapM (c.variant t.name fields) = .ok variants) :
      Declared c t [c.declareType t (.oneOf c.settings.immutable variants)]
  | input {flag fields members} (hbody : t.body = .input flag fields) (hone : t.isOneOf = false)
      (hmembers : fields.mapM c.inputMember = .ok members) :
      Declared c t [c.declareType t (.input c.settings.kinds.input members)]

theorem declared_of_ok {c : Scope} {t : NamedType} {ds : List Declaration}
    (h : c.declarationsFor t = .ok ds) : c.Declared t ds := by
  unfold declarationsFor at h
  cases hb : t.body with
  | scalar =>
    simp only [hb, pure_eq_ok] at h
    exact h ▸ .scalar hb
  | enum values =>
    simp only [hb] at h
    obtain ⟨external, hexternal, h⟩ := bind_eq_ok.mp h
    have hexternal := mapError_eq_ok.mp hexternal
    cases external with
    | some mapper =>
      simp only [Option.isSome_some, if_true, pure_eq_ok] at h
      exact h ▸ .externalEnum hb hexternal
    | none =>
      obtain ⟨values', hvalues, h⟩ := bind_eq_ok.mp h
      obtain ⟨d, hd, h⟩ := bind_eq_ok.mp h
      obtain ⟨lines, hlines, hd⟩ := bind_eq_ok.mp hd
      rw [pure_eq_ok] at h hd
      rw [mapError_eq_ok.mp hvalues] at hb
      rw [← h, ← hd]
      exact .localEnum hb hexternal hlines
  | object interfaces fields =>
    simp only [hb] at h
    obtain ⟨members, hmembers, h⟩ := bind_eq_ok.mp h
    obtain ⟨bags, hbags, h⟩ := bind_eq_ok.mp h
    rw [pure_eq_ok] at h
    exact h ▸ .object hb hmembers hbags
  | interface interfaces fields =>
    simp only [hb] at h
    obtain ⟨members, hmembers, h⟩ := bind_eq_ok.mp h
    obtain ⟨bags, hbags, h⟩ := bind_eq_ok.mp h
    rw [pure_eq_ok] at h
    exact h ▸ .interface hb hmembers hbags
  | union members =>
    simp only [hb] at h
    obtain ⟨references, hreferences, h⟩ := bind_eq_ok.mp h
    rw [pure_eq_ok] at h
    exact h ▸ .union hb hreferences
  | input flag fields =>
    simp only [hb] at h
    cases hone : t.isOneOf with
    | true =>
      rw [hone, if_pos rfl] at h
      obtain ⟨variants, hvariants, h⟩ := bind_eq_ok.mp h
      rw [pure_eq_ok] at h
      exact h ▸ .oneOf hb hone hvariants
    | false =>
      rw [hone, if_neg (by simp)] at h
      obtain ⟨members, hmembers, h⟩ := bind_eq_ok.mp h
      rw [pure_eq_ok] at h
      exact h ▸ .input hb hone hmembers

theorem Declared.ok {c : Scope} {t : NamedType} {ds : List Declaration} (h : c.Declared t ds) :
    c.declarationsFor t = .ok ds := by
  unfold declarationsFor
  cases h with
  | scalar hbody =>
    rw [hbody]
    rfl
  | externalEnum hbody hexternal =>
    rw [hbody]
    exact bind_eq_ok.mpr ⟨_, mapError_eq_ok.mpr hexternal, rfl⟩
  | @localEnum values lines hbody hlocal hlines =>
    rw [hbody]
    refine bind_eq_ok.mpr ⟨none, mapError_eq_ok.mpr hlocal, bind_eq_ok.mpr ⟨values, rfl, ?_⟩⟩
    exact bind_eq_ok.mpr ⟨_, bind_eq_ok.mpr ⟨lines, hlines, rfl⟩, rfl⟩
  | object hbody hmembers hbags | interface hbody hmembers hbags =>
    rw [hbody]
    exact bind_eq_ok.mpr ⟨_, hmembers, bind_eq_ok.mpr ⟨_, hbags, rfl⟩⟩
  | union hbody hreferences =>
    rw [hbody]
    exact bind_eq_ok.mpr ⟨_, hreferences, rfl⟩
  | oneOf hbody hone hvariants =>
    rw [hbody, hone]
    exact bind_eq_ok.mpr ⟨_, hvariants, rfl⟩
  | input hbody hone hmembers =>
    rw [hbody, hone]
    exact bind_eq_ok.mpr ⟨_, hmembers, rfl⟩

end Scope

/-! ## The parts of a run -/

/-- The parts of a run: the scalars, the types mapped to directives, and the declarations of each
type. -/
structure RunParts (schema : Schema) (s : Settings) where
  scalars : ScalarTable
  mapped : Table String Value
  ledger : ImportLedger
  ofTypes : List (List Declaration)
  scalars_ok : ScalarTable.ofSchema schema s = .ok scalars
  gathered : Emission.gather schema s scalars = .ok (mapped, ledger)
  declared : schema.userTypes.mapM (Scope.declarationsFor { schema, settings := s, mapped }) =
    .ok ofTypes

namespace RunParts

variable {schema : Schema} {s : Settings}

def scope (p : RunParts schema s) : Scope := { schema, settings := s, mapped := p.mapped }

def mappings (p : RunParts schema s) : List Declaration :=
  if p.mapped.isEmpty then [] else [p.scope.mappingsDeclaration]

def emission (p : RunParts schema s) : Emission :=
  { prelude := preludeLines s, ledger := p.ledger,
    declarations := p.scope.scalarsDeclaration p.scalars :: p.mappings ++ p.ofTypes.flatten }

theorem unique (p q : RunParts schema s) : p = q := by
  obtain ⟨scalars, mapped, ledger, ofTypes, hscalars, hgathered, hdeclared⟩ := p
  obtain ⟨scalars', mapped', ledger', ofTypes', hscalars', hgathered', hdeclared'⟩ := q
  -- What a run has settled is the result of the same computations, so it is the same.
  obtain rfl := Except.ok.inj (hscalars.symm.trans hscalars')
  obtain ⟨rfl, rfl⟩ := Prod.mk.inj (Except.ok.inj (hgathered.symm.trans hgathered'))
  obtain rfl := Except.ok.inj (hdeclared.symm.trans hdeclared')
  rfl

theorem declarationsFor_ok (p : RunParts schema s) {t : NamedType} (ht : t ∈ schema.userTypes) :
    ∃ ds, p.scope.declarationsFor t = .ok ds ∧ ds ⊆ p.emission.declarations := by
  obtain ⟨ds, hds, h⟩ := exists_mem_of_mapM p.declared ht
  refine ⟨ds, h, ?_⟩
  intro d hd
  exact List.mem_append_right _ (List.mem_flatten.mpr ⟨ds, hds, hd⟩)

theorem mappings_declared (p : RunParts schema s) (h : p.mapped ≠ []) :
    p.scope.mappingsDeclaration ∈ p.emission.declarations := by
  refine List.mem_append_left _ (List.mem_cons_of_mem _ ?_)
  rw [mappings, if_neg (by simpa using h)]
  exact List.mem_cons_self

theorem mem_declarations (p : RunParts schema s) {d : Declaration}
    (hd : d ∈ p.emission.declarations) :
    d = p.scope.scalarsDeclaration p.scalars ∨ d = p.scope.mappingsDeclaration ∨
      ∃ t ∈ schema.userTypes, ∃ ds, p.scope.declarationsFor t = .ok ds ∧ d ∈ ds := by
  rcases List.mem_append.mp hd with hd | hd
  · rcases List.mem_cons.mp hd with rfl | hd
    · exact Or.inl rfl
    · unfold mappings at hd
      split at hd
      · simp at hd
      · exact Or.inr (Or.inl (List.mem_singleton.mp hd))
  · obtain ⟨ds, hds, hd⟩ := List.mem_flatten.mp hd
    obtain ⟨t, ht, h⟩ := exists_of_mem_mapM p.declared hds
    exact Or.inr (Or.inr ⟨t, ht, ds, h, hd⟩)

theorem emission_ok (p : RunParts schema s) : Emission.ofSchema schema s = .ok p.emission :=
  bind_eq_ok.mpr ⟨_, p.scalars_ok, bind_eq_ok.mpr
    ⟨_, mapError_eq_ok.mpr p.gathered, bind_eq_ok.mpr ⟨_, p.declared, rfl⟩⟩⟩

end RunParts

theorem exists_parts {schema : Schema} {s : Settings} {e : Emission}
    (h : Emission.ofSchema schema s = .ok e) : ∃ p : RunParts schema s, p.emission = e := by
  obtain ⟨scalars, hscalars, h⟩ := bind_eq_ok.mp h
  obtain ⟨⟨mapped, ledger⟩, hgather, h⟩ := bind_eq_ok.mp h
  obtain ⟨ofTypes, hdeclared, h⟩ := bind_eq_ok.mp h
  rw [pure_eq_ok] at h
  refine ⟨⟨scalars, mapped, ledger, ofTypes, hscalars, mapError_eq_ok.mp hgather, hdeclared⟩, ?_⟩
  exact h

theorem emission_of_emit {schema : Schema} {s : Settings} {out : Output}
    (h : emit schema s = .ok out) :
    ∃ e, Emission.ofSchema schema s = .ok e ∧ e.output = .ok out :=
  bind_eq_ok.mp h

theorem output_parts {e : Emission} {out : Output} (h : e.output = .ok out) :
    ∃ statements, e.ledger.statements = .ok statements ∧
      out.prepend = statements.map ImportLedger.Statement.render ++ e.ledger.assignmentLines ++
        e.prelude ∧
      out.content = e.declarations.map Declaration.render ++ e.ledger.reexportLines := by
  obtain ⟨imports, himports, h⟩ := bind_eq_ok.mp h
  rw [pure_eq_ok] at h
  obtain ⟨statements, hstatements, hlines⟩ := bind_eq_ok.mp (mapError_eq_ok.mp himports)
  rw [pure_eq_ok] at hlines
  refine ⟨statements, hstatements, ?_, ?_⟩
  · rw [← h, hlines]
  · rw [← h]

/-! ## Runs with little room -/

namespace Scope

theorem enumLine_ample {c : Scope} {m : EnumMember} {l : EnumLine} (h : c.enumLine m = .ok l) :
    enumLine { c with room := .ample } m = .ok l := by
  obtain ⟨⟨⟩, htext, hline⟩ := bind_eq_ok.mp h
  have hample : m.value.checkText Room.ample.literal = .ok () :=
    m.value.checkText_ample (mapError_eq_ok.mp htext)
  exact bind_eq_ok.mpr ⟨(), mapError_eq_ok.mpr hample, hline⟩

theorem Declared.ample {c : Scope} {t : NamedType} {ds : List Declaration} (h : c.Declared t ds) :
    Declared { c with room := .ample } t ds := by
  cases h with
  | scalar hbody => exact .scalar hbody
  | externalEnum hbody hexternal => exact .externalEnum hbody hexternal
  -- Nothing but the values of an enum is put into text here.
  | localEnum hbody hlocal hlines =>
    have hample := (mapM_eq_ok.mp hlines).imp fun _ _ => enumLine_ample
    exact .localEnum hbody hlocal (mapM_eq_ok.mpr hample)
  | object hbody hmembers hbags => exact .object hbody hmembers hbags
  | interface hbody hmembers hbags => exact .interface hbody hmembers hbags
  | union hbody hreferences => exact .union hbody hreferences
  | oneOf hbody hone hvariants => exact .oneOf hbody hone hvariants
  | input hbody hone hmembers => exact .input hbody hone hmembers

end Scope

/-- An output does not depend on the room that there was, so what holds of runs with room for every
text holds of each run that has an output. -/
theorem emit_ample {schema : Schema} {s : Settings} {room : Room} {out : Output}
    (h : emit schema s room = .ok out) : emit schema s = .ok out := by
  obtain ⟨e, he, hout⟩ := bind_eq_ok.mp h
  obtain ⟨scalars, hscalars, he⟩ := bind_eq_ok.mp he
  obtain ⟨⟨mapped, ledger⟩, hgather, he⟩ := bind_eq_ok.mp he
  obtain ⟨ofTypes, hdeclared, he⟩ := bind_eq_ok.mp he
  have hample := (mapM_eq_ok.mp hdeclared).imp fun _ _ ht => (Scope.declared_of_ok ht).ample.ok
  exact bind_eq_ok.mpr ⟨e, bind_eq_ok.mpr ⟨scalars, hscalars, bind_eq_ok.mpr
    ⟨(mapped, ledger), hgather, bind_eq_ok.mpr ⟨ofTypes, mapM_eq_ok.mpr hample, he⟩⟩⟩, hout⟩

/-! ## Runs from a text and options -/

/-- A schema text and options are read, and they pass a check. -/
def reads (text : String) (options : Options) (check : Schema → Settings → Bool) : Bool :=
  (Schema.ofText text).toOption.any fun schema =>
    (Settings.ofOptions options).toOption.any (check schema)

theorem exists_of_reads {text : String} {options : Options} {check : Schema → Settings → Bool}
    (h : reads text options check = true) :
    ∃ schema s, Schema.ofText text = .ok schema ∧ Settings.ofOptions options = .ok s ∧
      check schema s = true := by
  obtain ⟨schema, hschema, h⟩ := (Option.any_eq_true ..).mp h
  obtain ⟨s, hsettings, h⟩ := (Option.any_eq_true ..).mp h
  rw [toOption_eq_some] at hschema hsettings
  exact ⟨schema, s, hschema, hsettings, h⟩

-- The values of an enum are an outcome, so equality is decided where outcomes have it.
deriving instance DecidableEq for TypeBody, NamedType, Schema

/-- A schema text and options give an output, and they pass a further check. -/
def runs (text : String) (options : Options) (check : Schema → Settings → Bool) : Bool :=
  (Schema.ofText text).toOption.any fun schema =>
    (Settings.ofOptions options).toOption.any fun s =>
      (emit schema s).toOption.isSome && check schema s

theorem exists_of_runs {text : String} {options : Options} {check : Schema → Settings → Bool}
    (h : runs text options check = true) :
    ∃ schema s out, Schema.ofText text = .ok schema ∧ Settings.ofOptions options = .ok s ∧
      emit schema s = .ok out ∧ check schema s = true := by
  obtain ⟨schema, s, hschema, hsettings, h⟩ := exists_of_reads h
  obtain ⟨hemit, hcheck⟩ := Bool.and_eq_true_iff.mp h
  obtain ⟨out, hemit⟩ := Option.isSome_iff_exists.mp hemit
  rw [toOption_eq_some] at hemit
  exact ⟨schema, s, out, hschema, hsettings, hemit, hcheck⟩

end SchemaTypings.Code
