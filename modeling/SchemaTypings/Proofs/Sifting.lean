import SchemaTypings.Proofs.Bindings
import SchemaTypings.Proofs.Shapes

/-!
# Directives that play no part

A schema may be sifted: of the directives in it only those of some names stay, in their order. If
all mapped directives stay, the schema gives what it gave before. Schemas that are the same once
they are sifted differ in directives of other names only: one has more of them, or has them
elsewhere.
-/

open SchemaTypings.Outcome

namespace SchemaTypings

/-! ## Sifted schemas -/

def InputValue.sift (keep : String → Bool) (i : InputValue) : InputValue :=
  { i with directives := i.directives.filter keep }

def Field.sift (keep : String → Bool) (f : Field) : Field :=
  { f with directives := f.directives.filter keep, arguments := f.arguments.map (.sift keep) }

def TypeBody.sift (keep : String → Bool) : TypeBody → TypeBody
  | scalar => scalar
  | object interfaces fields => object interfaces (fields.map (.sift keep))
  | interface interfaces fields => interface interfaces (fields.map (.sift keep))
  | union members => union members
  | enum values => enum values
  | input oneOf fields => input oneOf (fields.map (.sift keep))

/-- On a type the directive stays that makes it an input of which one field is given. -/
def keepOnType (keep : String → Bool) (name : String) : Bool := keep name || name = "oneOf"

def NamedType.sift (keep : String → Bool) (t : NamedType) : NamedType :=
  { t with directives := t.directives.filter (keepOnType keep), body := t.body.sift keep }

theorem NamedType.shape_sift (keep : String → Bool) (t : NamedType) :
    (t.sift keep).shape = t.shape := by
  unfold shape sift
  cases t.body <;> rfl

theorem NamedType.isOneOf_sift (keep : String → Bool) (t : NamedType) :
    (t.sift keep).isOneOf = t.isOneOf := by
  have hdirectives : (t.directives.filter (keepOnType keep)).contains "oneOf" =
      t.directives.contains "oneOf" := by
    rw [Bool.eq_iff_iff, List.contains_iff_mem, List.contains_iff_mem, List.mem_filter]
    simp [keepOnType]
  unfold isOneOf sift
  rw [hdirectives]
  cases t.body <;> rfl

namespace Schema

def sift (keep : String → Bool) (s : Schema) : Schema :=
  { s with types := s.types.map (.sift keep) }

theorem shape_sift (keep : String → Bool) (s : Schema) : (s.sift keep).shape = s.shape := by
  unfold shape sift
  rw [List.map_map]
  congr 1
  exact List.map_congr_left fun t _ => t.shape_sift keep

theorem userTypes_sift (keep : String → Bool) (s : Schema) :
    (s.sift keep).userTypes = s.userTypes.map (.sift keep) := by
  unfold userTypes sift
  rw [List.filter_map]
  rfl

end Schema

/-- The settings have a mapping for a directive. -/
def Settings.mapsDirective (s : Settings) (name : String) : Bool :=
  Table.has s.directiveMappings name

namespace Code

theorem ScalarTable.ofSchema_sift (keep : String → Bool) (schema : Schema) (s : Settings) :
    ofSchema (schema.sift keep) s = ofSchema schema s := by
  have hscalars : schemaScalars (schema.sift keep) = (schemaScalars schema).map (.sift keep) := by
    unfold schemaScalars
    rw [Schema.userTypes_sift, List.filter_map]
    congr 2
    funext t
    rw [Function.comp, ← NamedType.isScalar_shape, NamedType.shape_sift, NamedType.isScalar_shape]
  unfold ofSchema
  rw [unknownScalar_of_shape s (schema.shape_sift keep),
    namesToResolve_of_shape s (schema.shape_sift keep), hscalars, List.filter_map, List.map_map]
  rfl

/-! ## Members and declarations -/

namespace Scope

/-- The same run over the sifted schema. -/
def sift (keep : String → Bool) (c : Scope) : Scope := { c with schema := c.schema.sift keep }

/-- All directives stay that the run maps. -/
def Keeps (c : Scope) (keep : String → Bool) : Prop :=
  ∀ d, Table.has c.mapped d = true → keep d = true

variable {c : Scope} {keep : String → Bool}

theorem reference_sift (keep : String → Bool) (c : Scope) (name : String) :
    (c.sift keep).reference name = c.reference name :=
  reference_of_shape (c.schema.shape_sift keep) name

theorem outputReference_sift (keep : String → Bool) (c : Scope) (name : String) :
    (c.sift keep).outputReference name = c.outputReference name :=
  outputReference_of_shape (c.schema.shape_sift keep) name

theorem override_sift (h : c.Keeps keep) (directives : List String) :
    (c.sift keep).override? (directives.filter keep) = c.override? directives := by
  have hmapped : directives.filter (fun d => Table.has c.mapped d && keep d) =
      directives.filter fun d => Table.has c.mapped d := by
    refine List.filter_congr fun d _ => ?_
    cases hd : Table.has c.mapped d with
    | false => rfl
    | true => rw [h d hd, Bool.and_self]
  unfold override? sift
  rw [List.filter_filter, hmapped]

theorem outputMember_sift (keep : String → Bool) (c : Scope) (f : Field) :
    (c.sift keep).outputMember (f.sift keep) = c.outputMember f := by
  have hreference : (c.sift keep).outputReference (f.sift keep).type.name =
      c.outputReference f.type.name := outputReference_sift keep c _
  unfold outputMember
  rw [hreference]
  rfl

theorem inputMember_sift (h : c.Keeps keep) (i : InputValue) :
    (c.sift keep).inputMember (i.sift keep) = c.inputMember i := by
  have hoverride : (c.sift keep).override? (i.sift keep).directives = c.override? i.directives :=
    override_sift h i.directives
  have hreference : (c.sift keep).reference (i.sift keep).type.name = c.reference i.type.name :=
    reference_sift keep c _
  unfold inputMember
  rw [hoverride, hreference]
  rfl

theorem variant_sift (h : c.Keeps keep) (input : String) (fields : List InputValue)
    (i : InputValue) :
    (c.sift keep).variant input (fields.map (.sift keep)) (i.sift keep) =
      c.variant input fields i := by
  have hoverride : (c.sift keep).override? (i.sift keep).directives = c.override? i.directives :=
    override_sift h i.directives
  have hreference : (c.sift keep).reference (i.sift keep).type.name = c.reference i.type.name :=
    reference_sift keep c _
  unfold variant requiredType
  rw [hoverride, hreference]
  simp only [List.map_map]
  rfl

theorem inputMembers_sift (h : c.Keeps keep) (is : List InputValue) :
    (is.map (.sift keep)).mapM (c.sift keep).inputMember = is.mapM c.inputMember := by
  rw [List.mapM_map]
  exact mapM_congr fun i _ => inputMember_sift h i

theorem argumentBag_sift (h : c.Keeps keep) (owner : String) (f : Field) :
    (c.sift keep).argumentBag owner (f.sift keep) = c.argumentBag owner f := by
  have hmembers : (f.sift keep).arguments.mapM (c.sift keep).inputMember =
      f.arguments.mapM c.inputMember := inputMembers_sift h f.arguments
  unfold argumentBag
  rw [hmembers]
  rfl

theorem argumentBags_sift (h : c.Keeps keep) (owner : String) (fields : List Field) :
    (c.sift keep).argumentBags owner (fields.map (.sift keep)) = c.argumentBags owner fields := by
  have hfilter : (fields.map (Field.sift keep)).filter (fun f => !f.arguments.isEmpty) =
      (fields.filter fun f => !f.arguments.isEmpty).map (Field.sift keep) := by
    rw [List.filter_map]
    congr 2
    funext f
    simp [Field.sift]
  unfold argumentBags
  rw [hfilter, List.mapM_map]
  exact mapM_congr fun f _ => argumentBag_sift h owner f

/-- **A sifted type is declared as before.** -/
theorem declarationsFor_sift (h : c.Keeps keep) (t : NamedType) :
    (c.sift keep).declarationsFor (t.sift keep) = c.declarationsFor t := by
  have hbody : (t.sift keep).body = t.body.sift keep := rfl
  have hname : (t.sift keep).name = t.name := rfl
  have hmembers : ∀ fields : List Field, (fields.map (.sift keep)).mapM (c.sift keep).outputMember =
      fields.mapM c.outputMember := by
    intro fields
    rw [List.mapM_map]
    exact mapM_congr fun f _ => outputMember_sift keep c f
  unfold declarationsFor
  rw [hbody, hname, t.isOneOf_sift keep]
  cases t.body with
  | scalar | enum _ => rfl
  | object interfaces fields | interface interfaces fields =>
    simp only [TypeBody.sift, hmembers, argumentBags_sift h]
    rfl
  | union members =>
    simp only [TypeBody.sift, funext (reference_sift keep c)]
    rfl
  | input flag fields =>
    have hvariants : (fields.map (.sift keep)).mapM
        ((c.sift keep).variant t.name (fields.map (.sift keep))) =
          fields.mapM (c.variant t.name fields) := by
      rw [List.mapM_map]
      exact mapM_congr fun i _ => variant_sift h t.name fields i
    simp only [TypeBody.sift, hvariants, inputMembers_sift h]
    rfl

end Scope

/-! ## The whole run -/

theorem has_mapped {schema : Schema} {s : Settings} {t : ScalarTable} {mapped : Table String Value}
    {ledger : ImportLedger} (h : Emission.gather schema s t = .ok (mapped, ledger)) (d : String) :
    Table.has mapped d = s.mapsDirective d := by
  have hkeys : ∀ {l l' : ImportLedger},
      s.directiveMappings.foldlM (Emission.mapDirective s) ([], l) = .ok (mapped, l') →
        (d ∈ Table.keys mapped ↔ d ∈ Table.keys s.directiveMappings) := by
    intro l l' hrun
    refine foldlM_invariant (fun done state => d ∈ Table.keys state.1 ↔ d ∈ Table.keys done)
      ?_ hrun Iff.rfl
    intro done entry state state' hstate hstep
    obtain ⟨m, _, hstep⟩ := bind_eq_ok.mp hstep
    obtain ⟨_, _, hstep⟩ := bind_eq_ok.mp hstep
    rw [pure_eq_ok] at hstep
    rw [← hstep, Table.mem_keys_put, hstate]
    simp [Table.keys]
  obtain ⟨l, _, h⟩ := bind_eq_ok.mp h
  obtain ⟨⟨mapped', l'⟩, hrun, h⟩ := bind_eq_ok.mp h
  obtain ⟨_, _, h⟩ := bind_eq_ok.mp h
  rw [pure_eq_ok, Prod.mk.injEq] at h
  rw [Bool.eq_iff_iff, Table.has, ← Table.mem_keys_iff, Settings.mapsDirective, Table.has,
    ← Table.mem_keys_iff]
  exact hkeys (h.1 ▸ hrun)

/-- **A sifted schema gives what it gave before, if all mapped directives stay.** -/
theorem emit_sift {keep : String → Bool} {s : Settings}
    (hkeep : ∀ d, s.mapsDirective d = true → keep d = true) (schema : Schema) :
    emit (schema.sift keep) s = emit schema s := by
  have hsame : Emission.ofSchema (schema.sift keep) s = Emission.ofSchema schema s := by
    unfold Emission.ofSchema
    rw [ScalarTable.ofSchema_sift]
    refine bind_congr_ok fun scalars _ => ?_
    rw [gather_of_shape (schema.shape_sift keep)]
    refine bind_congr_ok fun (mapped, ledger) hgathered => ?_
    -- All directives that the run maps are among those that stay.
    have hkeeps : Scope.Keeps { schema, settings := s, mapped } keep := fun d hd =>
      hkeep d (by rwa [has_mapped (mapError_eq_ok.mp hgathered)] at hd)
    have htypes : (schema.sift keep).userTypes.mapM
        (Scope.declarationsFor { schema := schema.sift keep, settings := s, mapped }) =
          schema.userTypes.mapM (Scope.declarationsFor { schema, settings := s, mapped }) := by
      rw [Schema.userTypes_sift, List.mapM_map]
      exact mapM_congr fun t _ => Scope.declarationsFor_sift hkeeps t
    simp only [htypes]
    rfl
  unfold emit
  rw [hsame]

end Code

end SchemaTypings
