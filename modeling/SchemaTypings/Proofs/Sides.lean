import SchemaTypings.Proofs.Bindings

/-!
# Input and output

Some settings are about values that are read, some about values that are passed in. Neither reach
the declarations of the other side.
-/

open SchemaTypings.Outcome

namespace SchemaTypings

/-! ## Settings of one side -/

namespace Settings

/-- What settings say, but for what is only about values that are read. -/
def exceptOutput (s : Settings) : Settings :=
  { s with
    wrapFields := false, fieldWrapper := "", wrapEntireFields := false, entireFieldWrapper := ""
    implementingTypes := false, skipTypename := false, requiredTypename := false
    futureProofUnions := false, avoid := { s.avoid with field := false }
    kinds := { s.kinds with object := .typeAlias, interface := .typeAlias } }

/-- What settings say, but for what is only about values that are passed in. -/
def exceptInput (s : Settings) : Settings :=
  { s with
    directiveMappings := [], mappingSuffix := ""
    avoid := { s.avoid with inputValue := false, defaultValue := false }
    kinds := { s.kinds with input := .typeAlias, arguments := .typeAlias } }

end Settings

namespace Code

/-! ## Enums -/

theorem memberKeys_congr {s s' : Settings} (hkey : ∀ name, s.enumKey name = s'.enumKey name)
    (used names : List String) : memberKeys s used names = memberKeys s' used names := by
  induction names generalizing used with
  | nil => rfl
  | cons name rest ih =>
    have hmember : memberKey s used name = memberKey s' used name := by
      unfold memberKey
      rw [hkey]
    rw [memberKeys, memberKeys, hmember, ih]

theorem enumMembers_congr {s s' : Settings} (hkey : ∀ name, s.enumKey name = s'.enumKey name)
    (hoverrides : s.enumOverrides = s'.enumOverrides) (hform : s.enumForm = s'.enumForm) :
    s.enumMembers = s'.enumMembers := by
  have hvalue : memberValue s = memberValue s' := by
    funext overrides index v
    unfold memberValue
    rw [hform]
  funext enum values
  unfold Settings.enumMembers
  rw [hoverrides, hvalue, memberKeys_congr hkey]

/-! ## Declarations of one side -/

namespace Declaration

/-- Declarations for values that are passed in, or for both sides. -/
def isInput (d : Declaration) : Bool :=
  match d.body with
  | .scalars _ | .directiveMappings _ | .enum .. | .input .. | .oneOf .. | .arguments .. => true
  | .object .. | .interface .. | .union .. => false

/-- Declarations for values that are read, and enums. -/
def isOutput (d : Declaration) : Bool :=
  match d.body with
  | .object .. | .interface .. | .union .. | .enum .. => true
  | .scalars _ | .directiveMappings _ | .input .. | .oneOf .. | .arguments .. => false

end Declaration

namespace Scope

variable {c c' : Scope} {t : NamedType}

/-- What a type declares on the side of input. -/
def inputShare (c : Scope) (t : NamedType) : Except EmitError (List Declaration) :=
  match t.body with
  | .scalar | .union _ => .ok []
  | .object _ fields | .interface _ fields => c.argumentBags t.name fields
  | .enum _ | .input .. => c.declarationsFor t

/-- What a type declares on the side of output. -/
def outputShare (c : Scope) (t : NamedType) : Except EmitError (List Declaration) :=
  match t.body with
  | .scalar | .input .. => .ok []
  | .object interfaces fields => do
    let members ← fields.mapM c.outputMember
    return [c.declareType t (.object c.settings.kinds.object
      (interfaces.map c.settings.typeName) (c.typename t.name) members)]
  | .interface interfaces fields => do
    let members ← fields.mapM c.outputMember
    return [c.declareType t (.interface c.settings.kinds.interface
      (interfaces.map c.settings.typeName) members)]
  | .union _ | .enum _ => c.declarationsFor t

theorem isInput_bags {owner : String} {fields : List Field} {bags : List Declaration}
    (h : c.argumentBags owner fields = .ok bags) :
    ∀ d ∈ bags, d.isInput = true ∧ d.isOutput = false := by
  refine forall_of_mapM h fun f _ d hd => ?_
  obtain ⟨_, _, hd⟩ := bind_eq_ok.mp hd
  rw [pure_eq_ok] at hd
  rw [← hd]
  exact ⟨rfl, rfl⟩

theorem inputShare_ok {ds : List Declaration} (h : c.declarationsFor t = .ok ds) :
    c.inputShare t = .ok (ds.filter Declaration.isInput) := by
  unfold inputShare
  have hdeclared := declared_of_ok h
  cases hdeclared with
  | scalar hbody | union hbody => simp only [hbody]; rfl
  | externalEnum hbody | localEnum hbody | oneOf hbody | input hbody =>
    simp only [hbody, h]
    rfl
  | object hbody _ hbags | interface hbody _ hbags =>
    simp only [hbody, hbags]
    have hall := List.filter_eq_self.mpr fun d hd => (isInput_bags hbags d hd).1
    rw [List.filter_cons_of_neg (by simp [declareType, declare, Declaration.isInput]), hall]

theorem outputShare_ok {ds : List Declaration} (h : c.declarationsFor t = .ok ds) :
    c.outputShare t = .ok (ds.filter Declaration.isOutput) := by
  unfold outputShare
  have hdeclared := declared_of_ok h
  cases hdeclared with
  | scalar hbody | oneOf hbody | input hbody => simp only [hbody]; rfl
  | externalEnum hbody | localEnum hbody | union hbody =>
    simp only [hbody, h]
    rfl
  | object hbody hmembers hbags | interface hbody hmembers hbags =>
    have hnone := List.filter_eq_nil_iff.mpr fun d hd =>
      Bool.eq_false_iff.mp (isInput_bags hbags d hd).2
    simp only [hbody, hmembers, ok_bind]
    rw [List.filter_cons_of_pos (by rfl), hnone]
    rfl

/-- What a run knows where values are passed in. -/
def inputSide (c : Scope) : Scope := { c with settings := c.settings.exceptOutput }

/-- What a run knows where values are read. -/
def outputSide (c : Scope) : Scope := { c with settings := c.settings.exceptInput, mapped := [] }

theorem scalarsDeclaration_inputSide (c : Scope) (table : ScalarTable) :
    c.inputSide.scalarsDeclaration table = c.scalarsDeclaration table := rfl

theorem mappingsDeclaration_inputSide (c : Scope) :
    c.inputSide.mappingsDeclaration = c.mappingsDeclaration := rfl

theorem inputShare_inputSide (c : Scope) : c.inputSide.inputShare = c.inputShare := by
  have hmembers : c.inputSide.settings.enumMembers = c.settings.enumMembers :=
    enumMembers_congr (fun _ => rfl) rfl rfl
  funext t
  unfold inputShare declarationsFor
  cases t.body with
  | enum values =>
    -- The keys of an enum are found by a recursion, so its members need the lemma on them.
    unfold localEnum
    rw [hmembers]
    rfl
  | _ => rfl

theorem outputShare_outputSide (c : Scope) : c.outputSide.outputShare = c.outputShare := by
  have hmembers : c.outputSide.settings.enumMembers = c.settings.enumMembers :=
    enumMembers_congr (fun _ => rfl) rfl rfl
  funext t
  unfold outputShare declarationsFor
  cases t.body with
  | enum values =>
    unfold localEnum
    rw [hmembers]
    rfl
  | _ => rfl

/-! ## Runs that succeed -/

theorem reference_inputSide (c : Scope) : c.inputSide.reference = c.reference := rfl

theorem comment_inputSide (c : Scope) : c.inputSide.comment = c.comment := rfl

theorem argumentBags_inputSide (c : Scope) : c.inputSide.argumentBags = c.argumentBags := rfl

theorem exists_outputReference_iff (c : Scope) (n : String) :
    (∃ r, c.outputReference n = .ok r) ↔ ∃ r, c.reference n = .ok r := by
  unfold outputReference
  cases c.settings.implementingTypes with
  | false => rfl
  | true =>
    cases hfind : c.schema.find? n with
    | none => rfl
    | some u =>
      cases hbody : u.body with
      | interface _ _ | union _ => simp [reference, hfind, hbody]
      | scalar | object _ _ | enum _ | input _ _ => simp only [hbody]

theorem exists_outputMembers (hside : c.inputSide = c'.inputSide) {fields : List Field}
    {members : List Attribute} (h : fields.mapM c.outputMember = .ok members) :
    ∃ members', fields.mapM c'.outputMember = .ok members' := by
  refine exists_mapM fun f hf => ?_
  obtain ⟨a, _, ha⟩ := exists_mem_of_mapM h hf
  obtain ⟨core, hcore, hcomment, _⟩ := outputMember_ok ha
  have hcore := (c.exists_outputReference_iff f.type.name).mp ⟨core, hcore⟩
  rw [← c.reference_inputSide, hside, reference_inputSide] at hcore
  rw [← c.comment_inputSide, hside, comment_inputSide] at hcomment
  obtain ⟨core', hcore'⟩ := (c'.exists_outputReference_iff f.type.name).mpr hcore
  exact ⟨_, bind_eq_ok.mpr ⟨core', hcore', bind_eq_ok.mpr ⟨_, hcomment, rfl⟩⟩⟩

theorem exists_declarationsFor (hside : c.inputSide = c'.inputSide) {ds : List Declaration}
    (hds : c.declarationsFor t = .ok ds) : ∃ ds', c'.declarationsFor t = .ok ds' := by
  have hshare := inputShare_ok hds
  rw [← c.inputShare_inputSide, hside, inputShare_inputSide] at hshare
  unfold inputShare at hshare
  have hdeclared := declared_of_ok hds
  cases hdeclared with
  | scalar hbody => exact ⟨_, (Declared.scalar hbody).ok⟩
  | externalEnum hbody | localEnum hbody | oneOf hbody | input hbody =>
    rw [hbody] at hshare
    exact ⟨_, hshare⟩
  | object hbody hmembers hbags =>
    obtain ⟨_, hmembers'⟩ := exists_outputMembers hside hmembers
    rw [← c.argumentBags_inputSide, hside, argumentBags_inputSide] at hbags
    exact ⟨_, (Declared.object hbody hmembers' hbags).ok⟩
  | interface hbody hmembers hbags =>
    obtain ⟨_, hmembers'⟩ := exists_outputMembers hside hmembers
    rw [← c.argumentBags_inputSide, hside, argumentBags_inputSide] at hbags
    exact ⟨_, (Declared.interface hbody hmembers' hbags).ok⟩
  | union hbody hreferences =>
    rw [← c.reference_inputSide, hside, reference_inputSide] at hreferences
    exact ⟨_, (Declared.union hbody hreferences).ok⟩

end Scope

/-! ## Two runs -/

namespace RunParts

variable {schema : Schema} {s s' : Settings}

theorem mapM_share (p : RunParts schema s) {side : Declaration → Bool}
    {share : NamedType → Except EmitError (List Declaration)}
    (hshare : ∀ t ds, p.scope.declarationsFor t = .ok ds → share t = .ok (ds.filter side)) :
    schema.userTypes.mapM share = .ok (p.ofTypes.map (List.filter side)) := by
  rw [mapM_eq_ok, List.forall₂_map_right_iff]
  exact (mapM_eq_ok.mp p.declared).imp hshare

theorem filter_isInput (p : RunParts schema s) :
    p.emission.declarations.filter Declaration.isInput =
      p.scope.scalarsDeclaration p.scalars :: p.mappings ++
        (p.ofTypes.map (List.filter Declaration.isInput)).flatten := by
  have hmappings : p.mappings.filter Declaration.isInput = p.mappings := by
    unfold mappings
    split <;> rfl
  rw [emission, List.filter_append, List.filter_cons_of_pos rfl, hmappings, List.filter_flatten]

theorem filter_isOutput (p : RunParts schema s) :
    p.emission.declarations.filter Declaration.isOutput =
      (p.ofTypes.map (List.filter Declaration.isOutput)).flatten := by
  have hmappings : p.mappings.filter Declaration.isOutput = [] := by
    unfold mappings
    split <;> rfl
  rw [emission, List.filter_append, List.filter_cons_of_neg (by exact Bool.false_ne_true),
    hmappings, List.nil_append, List.filter_flatten]

theorem inputs_eq (h : s.exceptOutput = s'.exceptOutput) (p : RunParts schema s)
    (p' : RunParts schema s') : p.emission.declarations.filter Declaration.isInput =
      p'.emission.declarations.filter Declaration.isInput := by
  have hmapped : p.mapped = p'.mapped := by
    have hmappings := congrArg Settings.directiveMappings h
    have hsuffix := congrArg Settings.mappingSuffix h
    exact mapped_eq (show s.directiveMappings = s'.directiveMappings from hmappings) hsuffix p p'
  have hscope : p.scope.inputSide = p'.scope.inputSide := by
    unfold Scope.inputSide scope
    rw [h, hmapped]
  have hscalars : p.scalars = p'.scalars := by
    have htable : ScalarTable.ofSchema schema s.exceptOutput = .ok p.scalars := p.scalars_ok
    have htable' : ScalarTable.ofSchema schema s'.exceptOutput = .ok p'.scalars := p'.scalars_ok
    rw [h, htable', Except.ok.injEq] at htable
    exact htable.symm
  have hmappings : p.mappings = p'.mappings := by
    unfold mappings
    rw [hmapped, ← p.scope.mappingsDeclaration_inputSide, hscope,
      Scope.mappingsDeclaration_inputSide]
  have hinputs := p.mapM_share fun _ _ => Scope.inputShare_ok
  have hinputs' := p'.mapM_share fun _ _ => Scope.inputShare_ok
  rw [← p.scope.inputShare_inputSide, hscope, Scope.inputShare_inputSide, hinputs',
    Except.ok.injEq] at hinputs
  rw [filter_isInput, filter_isInput, ← p.scope.scalarsDeclaration_inputSide, hscope,
    Scope.scalarsDeclaration_inputSide, hscalars, hmappings, hinputs]

theorem outputs_eq (h : s.exceptInput = s'.exceptInput) (p : RunParts schema s)
    (p' : RunParts schema s') : p.emission.declarations.filter Declaration.isOutput =
      p'.emission.declarations.filter Declaration.isOutput := by
  have hscope : p.scope.outputSide = p'.scope.outputSide := by
    unfold Scope.outputSide scope
    rw [h]
  have houtputs := p.mapM_share fun _ _ => Scope.outputShare_ok
  have houtputs' := p'.mapM_share fun _ _ => Scope.outputShare_ok
  rw [← p.scope.outputShare_outputSide, hscope, Scope.outputShare_outputSide, houtputs',
    Except.ok.injEq] at houtputs
  rw [filter_isOutput, filter_isOutput, houtputs]

end RunParts

/-- The blocks of an output are the declarations of a run, and what it passes on. -/
def RunParts.Gives {schema : Schema} {s : Settings} (p : RunParts schema s) (out : Output) : Prop :=
  out.content = p.emission.declarations.map Declaration.render ++ p.ledger.reexportLines

theorem exists_gives {schema : Schema} {s : Settings} {out : Output} (h : emit schema s = .ok out) :
    ∃ p : RunParts schema s, p.Gives out := by
  obtain ⟨e, he, hout⟩ := emission_of_emit h
  obtain ⟨p, rfl⟩ := exists_parts he
  obtain ⟨_, _, _, hcontent⟩ := output_parts hout
  exact ⟨p, hcontent⟩

theorem exists_emit_of_exceptOutput {schema : Schema} {s s' : Settings} {out : Output}
    (hs : s.exceptOutput = s'.exceptOutput) (h : emit schema s = .ok out) :
    ∃ out', emit schema s' = .ok out' := by
  obtain ⟨e, he, hout⟩ := emission_of_emit h
  obtain ⟨p, rfl⟩ := exists_parts he
  have hscalars : ScalarTable.ofSchema schema s.exceptOutput = .ok p.scalars := p.scalars_ok
  have hgathered : Emission.gather schema s.exceptOutput p.scalars = .ok (p.mapped, p.ledger) :=
    p.gathered
  rw [hs] at hscalars hgathered
  -- The same directives and imports, under the other settings.
  let c' : Scope := { schema, settings := s', mapped := p.mapped }
  have hside : p.scope.inputSide = c'.inputSide := by
    unfold Scope.inputSide RunParts.scope
    rw [hs]
  obtain ⟨ofTypes, htypes⟩ : ∃ ofTypes, schema.userTypes.mapM c'.declarationsFor = .ok ofTypes := by
    refine exists_mapM fun t ht => ?_
    obtain ⟨_, hds, _⟩ := p.declarationsFor_ok ht
    exact Scope.exists_declarationsFor hside hds
  obtain ⟨imports, himports, _⟩ := bind_eq_ok.mp hout
  let p' : RunParts schema s' := ⟨p.scalars, p.mapped, p.ledger, ofTypes, hscalars, hgathered, htypes⟩
  exact ⟨_, bind_eq_ok.mpr ⟨_, p'.emission_ok, bind_eq_ok.mpr ⟨imports, himports, rfl⟩⟩⟩

/-- **Settings for values that are read do not reach declarations for values that are passed in, nor
the other way round.** Those for values that are read do not even decide whether a run succeeds. -/
theorem emit_sides {schema : Schema} {s : Settings} {out : Output} (h : emit schema s = .ok out) :
    ∃ p : RunParts schema s, p.Gives out ∧
      (∀ s' : Settings, s.exceptOutput = s'.exceptOutput →
        ∃ (out' : Output) (p' : RunParts schema s'), emit schema s' = .ok out' ∧ p'.Gives out' ∧
          p.emission.declarations.filter Declaration.isInput =
            p'.emission.declarations.filter Declaration.isInput) ∧
      ∀ (s' : Settings) (out' : Output), s.exceptInput = s'.exceptInput →
        emit schema s' = .ok out' → ∃ p' : RunParts schema s', p'.Gives out' ∧
          p.emission.declarations.filter Declaration.isOutput =
            p'.emission.declarations.filter Declaration.isOutput := by
  obtain ⟨p, hp⟩ := exists_gives h
  refine ⟨p, hp, ?_, ?_⟩
  · intro s' hs
    obtain ⟨out', h'⟩ := exists_emit_of_exceptOutput hs h
    obtain ⟨p', hp'⟩ := exists_gives h'
    exact ⟨out', p', h', hp', p.inputs_eq hs p'⟩
  · intro s' out' hs h'
    obtain ⟨p', hp'⟩ := exists_gives h'
    exact ⟨p', hp', p.outputs_eq hs p'⟩

/-- A text with declarations of all kinds. -/
def pagesText : String :=
  "directive @mapped on INPUT_FIELD_DEFINITION|ARGUMENT_DEFINITION " ++
  "enum Unit\x7bKG\x7d interface Node\x7bid:ID\x7d " ++
  "type Item implements Node\x7bid:ID size(unit:Unit@mapped):Int\x7d union Found=Item " ++
  "input Key@oneOf\x7bid:ID\x7d input Page\x7bfirst:Int=1@mapped\x7d"

/-- Options that are about values that are read. -/
def readOptions : Options :=
  Options.ofTable [("wrap_field_definitions", .bool true), ("use_implementing_types", .bool true),
    ("skip_typename", .bool true), ("future_proof_unions", .bool true),
    ("declaration_kind", .object [("type", .text "class")]),
    ("avoid_optionals", .object [("field", .bool true)])]

/-- Options that are about values that are passed in. -/
def passOptions : Options :=
  Options.ofTable [
    ("directive_argument_and_input_field_mappings", .object [("mapped", .text "string")]),
    ("declaration_kind", .object [("arguments", .text "interface")]),
    ("avoid_optionals", .object [("input_value", .bool true)])]

theorem emit_sides_pages : ∃ schema s read pass out outRead outPass,
    Schema.ofText pagesText = .ok schema ∧ Settings.ofOptions Options.defaults = .ok s ∧
    Settings.ofOptions readOptions = .ok read ∧ Settings.ofOptions passOptions = .ok pass ∧
    emit schema s = .ok out ∧ emit schema read = .ok outRead ∧ emit schema pass = .ok outPass ∧
    s.exceptOutput = read.exceptOutput ∧ s.exceptInput = pass.exceptInput ∧
    out.content ≠ outRead.content ∧ out.content ≠ outPass.content ∧
    ∃ p : RunParts schema s, p.Gives out ∧
      (∃ p' : RunParts schema read, p'.Gives outRead ∧
        p.emission.declarations.filter Declaration.isInput =
          p'.emission.declarations.filter Declaration.isInput) ∧
      ∃ p' : RunParts schema pass, p'.Gives outPass ∧
        p.emission.declarations.filter Declaration.isOutput =
          p'.emission.declarations.filter Declaration.isOutput := by
  have hread : (Settings.ofOptions Options.defaults).map Settings.exceptOutput =
      (Settings.ofOptions readOptions).map Settings.exceptOutput := by
    rfl
  have hpass : (Settings.ofOptions Options.defaults).map Settings.exceptInput =
      (Settings.ofOptions passOptions).map Settings.exceptInput := by
    rfl
  have hreads : reads pagesText Options.defaults (fun schema s =>
      (Settings.ofOptions readOptions).toOption.any fun read =>
      (Settings.ofOptions passOptions).toOption.any fun pass =>
      (emit schema s).toOption.any fun out => (emit schema read).toOption.any fun outRead =>
      (emit schema pass).toOption.any fun outPass =>
        decide (out.content ≠ outRead.content ∧ out.content ≠ outPass.content)) = true := by
    decide +kernel
  obtain ⟨schema, s, hschema, hsettings, hreads⟩ := exists_of_reads hreads
  obtain ⟨read, hsRead, hreads⟩ := (Option.any_eq_true ..).mp hreads
  obtain ⟨pass, hsPass, hreads⟩ := (Option.any_eq_true ..).mp hreads
  obtain ⟨out, hemit, hreads⟩ := (Option.any_eq_true ..).mp hreads
  obtain ⟨outRead, hRead, hreads⟩ := (Option.any_eq_true ..).mp hreads
  obtain ⟨outPass, hPass, hdiffer⟩ := (Option.any_eq_true ..).mp hreads
  rw [toOption_eq_some] at hsRead hsPass hemit hRead hPass
  rw [hsettings, hsRead] at hread
  rw [hsettings, hsPass] at hpass
  have hread := Except.ok.inj hread
  have hpass := Except.ok.inj hpass
  obtain ⟨hdiffersRead, hdiffersPass⟩ := of_decide_eq_true hdiffer
  obtain ⟨p, hp, hinputs, houtputs⟩ := emit_sides hemit
  obtain ⟨_, q, hq, hgives, hinputs⟩ := hinputs read hread
  obtain rfl := Except.ok.inj (hRead.symm.trans hq)
  exact ⟨schema, s, read, pass, out, outRead, outPass, hschema, hsettings, hsRead, hsPass, hemit,
    hRead, hPass, hread, hpass, hdiffersRead, hdiffersPass, p, hp, ⟨q, hgives, hinputs⟩,
    houtputs pass outPass hpass hPass⟩

end Code

end SchemaTypings
