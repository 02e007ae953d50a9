import SchemaTypings.Proofs.Shapes

/-!
# Schemas without their notes

A bare schema has no descriptions and no notices of deprecations. Whatever it gives is the same, but
for comments: no note decides what a run refers to, imports or declares.
-/

open SchemaTypings.Outcome

namespace SchemaTypings

/-! ## Bare schemas -/

def InputValue.bare (i : InputValue) : InputValue :=
  { i with description := .null, deprecation := .null }

def Field.bare (f : Field) : Field :=
  { f with description := .null, deprecation := .null, arguments := f.arguments.map InputValue.bare }

def EnumValue.bare (v : EnumValue) : EnumValue :=
  { v with description := .null, deprecation := .null }

def TypeBody.bare : TypeBody → TypeBody
  | scalar => scalar
  | object interfaces fields => object interfaces (fields.map Field.bare)
  | interface interfaces fields => interface interfaces (fields.map Field.bare)
  | union members => union members
  | enum values => enum (values.map (List.map EnumValue.bare))
  | input oneOf fields => input oneOf (fields.map InputValue.bare)

def NamedType.bare (t : NamedType) : NamedType :=
  { t with description := .null, body := t.body.bare }

namespace Schema

def bare (s : Schema) : Schema :=
  { types := s.types.map NamedType.bare, directives := s.directives.map fun d => (d.1, .null) }

variable (s : Schema)

theorem userTypes_bare : s.bare.userTypes = s.userTypes.map NamedType.bare := by
  unfold userTypes bare
  rw [List.filter_map]
  rfl

theorem shape_bare : s.bare.shape = s.shape := by
  have htype : ∀ t : NamedType, t.bare.shape = t.shape := by
    intro t
    unfold NamedType.shape NamedType.bare
    cases t.body <;> rfl
  unfold shape bare
  simp only [List.map_map, Function.comp_def, htype]

theorem isOneOf_bare (t : NamedType) : t.bare.isOneOf = t.isOneOf := by
  unfold NamedType.isOneOf NamedType.bare
  cases t.body <;> rfl

theorem isScalar_bare (t : NamedType) : t.bare.isScalar = t.isScalar := by
  unfold NamedType.isScalar NamedType.bare
  cases t.body <;> rfl

end Schema

namespace Code

/-! ## Bare declarations -/

def Attribute.bare (a : Attribute) : Attribute := { a with comment := none }

def EnumMember.bare (m : EnumMember) : EnumMember :=
  { m with description := .null, deprecation := .null }

def EnumLine.bare (l : EnumLine) : EnumLine := { member := l.member.bare, comment := none }

def ScalarRow.bare (r : ScalarRow) : ScalarRow := { r with description := .null }

def DeclarationBody.bare : DeclarationBody → DeclarationBody
  | scalars rows => scalars (rows.map ScalarRow.bare)
  | directiveMappings rows => directiveMappings (rows.map ScalarRow.bare)
  | object keyword bases typename fields =>
    object keyword bases typename (fields.map Attribute.bare)
  | interface keyword bases fields => interface keyword bases (fields.map Attribute.bare)
  | input keyword fields => input keyword (fields.map Attribute.bare)
  | arguments keyword fields => arguments keyword (fields.map Attribute.bare)
  | oneOf isReadonly variants => oneOf isReadonly variants
  | union members openReadonly => union members openReadonly
  | enum form futureProof lines => enum form futureProof (lines.map EnumLine.bare)

def Declaration.bare (d : Declaration) : Declaration :=
  { d with comment := none, body := d.body.bare }

/-! ## What a run refers to -/

namespace ScalarTable

def bare (t : ScalarTable) : ScalarTable :=
  { t with descriptions := t.descriptions.map fun d => (d.1, .null) }

variable (schema : Schema) (s : Settings)

theorem schemaScalars_bare :
    schemaScalars schema.bare = (schemaScalars schema).map NamedType.bare := by
  unfold schemaScalars
  rw [Schema.userTypes_bare, List.filter_map]
  congr
  funext t
  exact Schema.isScalar_bare t

theorem ofSchema_bare {t : ScalarTable} (h : ofSchema schema s = .ok t) :
    ofSchema schema.bare s = .ok t.bare := by
  unfold ofSchema at h ⊢
  rw [unknownScalar_of_shape s schema.shape_bare, namesToResolve_of_shape s schema.shape_bare,
    schemaScalars_bare]
  cases hunknown : unknownScalar? schema s with
  | some name =>
    rw [hunknown] at h
    cases h
  | none =>
    rw [hunknown] at h
    obtain ⟨resolved, hresolved, h⟩ := bind_eq_ok.mp h
    rw [pure_eq_ok] at h
    refine bind_eq_ok.mpr ⟨resolved, hresolved, ?_⟩
    rw [pure_eq_ok, ← h, bare, List.filter_map, List.map_map, List.map_map]
    rfl

end ScalarTable

namespace Scope

def bare (c : Scope) : Scope := { c with schema := c.schema.bare }

variable {c : Scope}

theorem reference_bare (c : Scope) (name : String) : c.bare.reference name = c.reference name :=
  reference_of_shape c.schema.shape_bare name

theorem outputReference_bare (c : Scope) (name : String) :
    c.bare.outputReference name = c.outputReference name :=
  outputReference_of_shape c.schema.shape_bare name

theorem comment_null (c : Scope) : c.comment .null .null = .ok none := by
  unfold comment
  cases c.settings.noDescriptions <;> rfl

theorem outputMember_bare {f : Field} {a : Attribute} (h : c.outputMember f = .ok a) :
    c.bare.outputMember f.bare = .ok a.bare := by
  obtain ⟨core, hcore, _, hname, htype⟩ := outputMember_ok h
  unfold outputMember
  rw [outputReference_bare]
  refine bind_eq_ok.mpr ⟨core, hcore, bind_eq_ok.mpr ⟨none, comment_null _, ?_⟩⟩
  rw [pure_eq_ok, Attribute.bare, hname, htype]
  rfl

theorem inputMember_bare {i : InputValue} {a : Attribute} (h : c.inputMember i = .ok a) :
    c.bare.inputMember i.bare = .ok a.bare := by
  obtain ⟨_, hname, htype⟩ := inputMember_ok h
  have hoverride : c.bare.override? i.bare.directives = c.override? i.directives := rfl
  unfold inputMember
  rw [hoverride, reference_bare]
  rcases htype with ⟨o, ho, htype⟩ | ⟨ho, core, hcore, htype⟩
  · rw [ho]
    refine bind_eq_ok.mpr ⟨o, rfl, bind_eq_ok.mpr ⟨none, comment_null _, ?_⟩⟩
    rw [pure_eq_ok, Attribute.bare, hname, htype]
    rfl
  · rw [ho]
    refine bind_eq_ok.mpr ⟨core, hcore, bind_eq_ok.mpr ⟨none, comment_null _, ?_⟩⟩
    rw [pure_eq_ok, Attribute.bare, hname, htype]
    rfl

theorem requiredType_bare (c : Scope) (i : InputValue) :
    c.bare.requiredType i.bare = c.requiredType i := by
  have hoverride : c.bare.override? i.bare.directives = c.override? i.directives := rfl
  unfold requiredType
  rw [hoverride, reference_bare]
  rfl

theorem variant_bare (c : Scope) (input : String) (fields : List InputValue) (given : InputValue) :
    c.bare.variant input (fields.map InputValue.bare) given.bare = c.variant input fields given := by
  unfold variant
  simp only [requiredType_bare, List.map_map]
  rfl

theorem enumLine_bare {m : EnumMember} {l : EnumLine} (h : c.enumLine m = .ok l) :
    c.bare.enumLine m.bare = .ok l.bare := by
  obtain ⟨htext, _, hmember⟩ := enumLine_ok h
  refine bind_eq_ok.mpr ⟨(), mapError_eq_ok.mpr htext, bind_eq_ok.mpr ⟨none, comment_null _, ?_⟩⟩
  rw [pure_eq_ok, EnumLine.bare, hmember]

theorem enumMembers_bare (s : Settings) (enum : String) (values : List EnumValue) :
    s.enumMembers enum (values.map EnumValue.bare) =
      (s.enumMembers enum values).map EnumMember.bare := by
  have hnames : (values.map EnumValue.bare).map EnumValue.name = values.map EnumValue.name := by
    rw [List.map_map]
    rfl
  unfold Settings.enumMembers
  rw [hnames, List.zip_map_left, List.zipIdx_map, List.map_map, List.map_map]
  rfl

theorem argumentBags_bare {owner : String} {fields : List Field} {bags : List Declaration}
    (h : c.argumentBags owner fields = .ok bags) :
    c.bare.argumentBags owner (fields.map Field.bare) = .ok (bags.map Declaration.bare) := by
  have hfilter : (fields.map Field.bare).filter (fun f => !f.arguments.isEmpty) =
      (fields.filter fun f => !f.arguments.isEmpty).map Field.bare := by
    rw [List.filter_map]
    congr
    funext f
    simp [Field.bare]
  unfold argumentBags
  rw [hfilter]
  refine mapM_image ?_ h
  intro f d hd
  obtain ⟨members, hmembers, hd⟩ := bind_eq_ok.mp hd
  rw [pure_eq_ok] at hd
  refine bind_eq_ok.mpr ⟨_, mapM_image (fun _ _ => inputMember_bare) hmembers, ?_⟩
  rw [pure_eq_ok, ← hd]
  rfl

theorem typeComment_null (c : Scope) : c.typeComment .null = none := by
  unfold typeComment described
  split <;> rfl

theorem declare_bare (c : Scope) (identifier : String) (comment : Option String)
    (body : DeclarationBody) :
    (c.declare identifier comment body).bare = c.bare.declare identifier none body.bare := rfl

theorem Declared.bare {t : NamedType} {ds : List Declaration} (h : c.Declared t ds) :
    c.bare.Declared t.bare (ds.map Declaration.bare) := by
  have hbare {b : TypeBody} (hbody : t.body = b) : t.bare.body = b.bare := congrArg TypeBody.bare hbody
  -- Without notes there is no comment above a declaration, either.
  have hcomment : none = c.bare.typeComment t.bare.description := (typeComment_null _).symm
  cases h with
  | scalar hbody => exact .scalar (hbare hbody)
  | externalEnum hbody hexternal => exact .externalEnum (hbare hbody) hexternal
  | @localEnum values lines hbody hlocal hlines =>
    have hlines := mapM_image (fun _ _ => enumLine_bare) hlines
    rw [← enumMembers_bare] at hlines
    have hall := Declared.localEnum (c := c.bare) (hbare hbody) hlocal hlines
    rw [← hcomment] at hall
    exact hall
  | object hbody hmembers hbags =>
    have hmembers := mapM_image (fun _ _ => outputMember_bare) hmembers
    have hall := Declared.object (c := c.bare) (hbare hbody) hmembers (argumentBags_bare hbags)
    rw [declareType, ← hcomment] at hall
    exact hall
  | interface hbody hmembers hbags =>
    have hmembers := mapM_image (fun _ _ => outputMember_bare) hmembers
    have hall := Declared.interface (c := c.bare) (hbare hbody) hmembers (argumentBags_bare hbags)
    rw [declareType, ← hcomment] at hall
    exact hall
  | union hbody hreferences =>
    have hreferences := hreferences
    rw [← funext (reference_bare c)] at hreferences
    have hall := Declared.union (c := c.bare) (hbare hbody) hreferences
    rw [declareType, ← hcomment] at hall
    exact hall
  | @oneOf flag fields variants hbody hone hvariants =>
    have hvariants : (fields.map InputValue.bare).mapM
        (c.bare.variant t.name (fields.map InputValue.bare)) = .ok (variants.map id) :=
      mapM_image (fun i v hv => (variant_bare c t.name fields i).trans hv) hvariants
    have hall := Declared.oneOf (c := c.bare) (hbare hbody)
      ((Schema.isOneOf_bare t).trans hone) hvariants
    rw [declareType, ← hcomment, List.map_id] at hall
    exact hall
  | input hbody hone hmembers =>
    have hmembers := mapM_image (fun _ _ => inputMember_bare) hmembers
    have hall := Declared.input (c := c.bare) (hbare hbody)
      ((Schema.isOneOf_bare t).trans hone) hmembers
    rw [declareType, ← hcomment] at hall
    exact hall

theorem mappings_bare (c : Scope) :
    c.bare.mappingsDeclaration.bare = c.mappingsDeclaration.bare := by
  unfold mappingsDeclaration
  rw [declare_bare, declare_bare]
  simp only [DeclarationBody.bare, List.map_map]
  rfl

end Scope

/-! ## The whole run -/

theorem DeclarationBody.bare_bare (b : DeclarationBody) : b.bare.bare = b.bare := by
  cases b <;> simp only [DeclarationBody.bare, List.map_map] <;> rfl

theorem Declaration.bare_bare (d : Declaration) : d.bare.bare = d.bare := by
  unfold bare
  rw [DeclarationBody.bare_bare]

namespace RunParts

variable {schema : Schema} {s : Settings}

def bare (p : RunParts schema s) : RunParts schema.bare s where
  scalars := p.scalars.bare
  mapped := p.mapped
  ledger := p.ledger
  ofTypes := p.ofTypes.map (List.map Declaration.bare)
  scalars_ok := ScalarTable.ofSchema_bare schema s p.scalars_ok
  gathered := (gather_of_shape schema.shape_bare s p.scalars).trans p.gathered
  declared := by
    rw [Schema.userTypes_bare]
    exact mapM_image (fun _ _ hds => (Scope.declared_of_ok hds).bare.ok) p.declared

theorem declarations_bare (p : RunParts schema s) :
    p.bare.emission.declarations.map Declaration.bare =
      p.emission.declarations.map Declaration.bare := by
  have hscalars : (p.bare.scope.scalarsDeclaration p.bare.scalars).bare =
      (p.scope.scalarsDeclaration p.scalars).bare := by
    unfold Scope.scalarsDeclaration ScalarTable.list
    simp only [Scope.declare_bare, DeclarationBody.bare, List.map_map]
    rfl
  have hmappings : p.bare.mappings.map Declaration.bare = p.mappings.map Declaration.bare := by
    have hmapped : p.bare.mapped = p.mapped := rfl
    unfold mappings
    rw [hmapped]
    split
    · rfl
    · exact congrArg (fun d => [d]) (Scope.mappings_bare p.scope)
  have htypes : p.bare.ofTypes.flatten.map Declaration.bare =
      p.ofTypes.flatten.map Declaration.bare := by
    show (p.ofTypes.map (List.map Declaration.bare)).flatten.map Declaration.bare = _
    -- What is bare stays as it is.
    rw [← List.map_flatten, List.map_map]
    exact List.map_congr_left fun d _ => d.bare_bare
  unfold emission
  simp only [List.map_cons, List.map_append, List.cons_append, hscalars, hmappings, htypes]

end RunParts

theorem declarations_of_bare {schema schema' : Schema} {s : Settings} (h : schema.bare = schema'.bare)
    (p : RunParts schema s) (p' : RunParts schema' s) : p.ledger = p'.ledger ∧
      p.emission.declarations.map Declaration.bare =
        p'.emission.declarations.map Declaration.bare := by
  -- A run has one set of parts only, so those of the bare run are the bare parts.
  have hparts : ∀ q : RunParts schema'.bare s, q = p'.bare := fun q => q.unique _
  rw [← p.declarations_bare, ← p'.declarations_bare]
  have hledger : p.ledger = p.bare.ledger := rfl
  have hledger' : p'.ledger = p'.bare.ledger := rfl
  rw [hledger, hledger']
  generalize p.bare = q
  revert q
  rw [h]
  intro q
  rw [hparts q]
  exact ⟨rfl, rfl⟩

end Code

end SchemaTypings
