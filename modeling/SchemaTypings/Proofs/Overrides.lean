import SchemaTypings.Proofs.OneOf
import SchemaTypings.Proofs.Sides
import SchemaTypings.Proofs.SiftedDocuments

/-!
# Inputs mapped to directives

The last mapped directive of an input field or of an argument takes the place of its whole type, in
all three places in which a value is passed in: a plain input, an input of which one field is given,
and the arguments of a field. It does not decide whether the value may be left out. Directives
without a mapping decide nothing at all.
-/

open SchemaTypings.Outcome

namespace SchemaTypings

namespace Settings

/-- The last of some directives that has a mapping. -/
def IsLastMapped (s : Settings) (directives : List String) (d : String) : Prop :=
  ∃ before after, directives = before ++ d :: after ∧ s.mapsDirective d = true ∧
    ∀ e ∈ after, s.mapsDirective e = false

/-- The settings without their mappings of directives. -/
def unmapped (s : Settings) : Settings := { s with directiveMappings := [] }

end Settings

namespace Code

/-! ## The type of an input -/

namespace Scope

/-- The type of an input is the row of its last mapped directive. Without any it is an ordinary one,
of what the name of its declared type refers to. -/
def TypedAs (c : Scope) (i : InputValue) (ordinary : Reference → TypeExpr Reference → Prop)
    (type : TypeExpr Reference) : Prop :=
  (∃ d, c.settings.IsLastMapped i.directives d ∧ type = { wrappers := [], core := .directive d } ∧
    type.render Reference.render = "DirectiveArgumentAndInputFieldMappings['" ++ d ++ "']") ∨
  ((∀ d ∈ i.directives, c.settings.mapsDirective d = false) ∧
    ∃ core, c.reference i.type.name = .ok core ∧ ordinary core type)

/-- A member of a plain input or of the arguments of a field. It may be left out if and only if it
may be without any mappings. -/
structure Passes (c : Scope) (i : InputValue) (a : Attribute) : Prop where
  name : a.name = i.name
  typed : c.TypedAs i (fun core type => type = c.settings.inputExpr i.type core) a.type.type
  optional : a.type.isOptional =
    if i.hasDefault && !c.settings.avoid.defaultValue then true
    else i.type.nullable && !c.settings.avoid.inputValue
  unmapped : ∀ (c' : Scope) (b : Attribute), c'.settings = c.settings.unmapped →
    c'.inputMember i = .ok b → b.type.isOptional = a.type.isOptional

/-- A variant that requires one field and forbids the others. An ordinary type in it is that of a
plain input without the outermost `InputMaybe`. -/
def Requires (c : Scope) (fields : List InputValue) (i : InputValue) (v : Variant) : Prop :=
  ∃ type, v = fields.map (fun f =>
      { name := f.name, type := if f.name = i.name then some type else none }) ∧
    c.TypedAs i (fun core type => c.settings.inputExpr i.type core =
      { wrappers := .inputMaybe :: type.wrappers, core := type.core }) type

/-- The run maps the directives that its settings map. -/
def Maps (c : Scope) : Prop := ∀ d, Table.has c.mapped d = c.settings.mapsDirective d

variable {c : Scope} {i : InputValue}

theorem isLastMapped_of_override (hmaps : c.Maps) {directives : List String} {o : Reference}
    (h : c.override? directives = some o) :
    ∃ d, c.settings.IsLastMapped directives d ∧ o = .directive d := by
  obtain ⟨d, hlast, rfl⟩ := Option.map_eq_some_iff.mp h
  obtain ⟨kept, hkept⟩ := List.getLast?_eq_some_iff.mp hlast
  obtain ⟨before, rest, hsplit, _, hrest⟩ := List.filter_eq_append_iff.mp hkept
  obtain ⟨between, after, rfl, _, hd, hafter⟩ := List.filter_eq_cons_iff.mp hrest
  rw [hmaps] at hd
  refine ⟨d, ⟨before ++ between, after, by simp [hsplit], hd, ?_⟩, rfl⟩
  intro e he
  have hnone := List.filter_eq_nil_iff.mp hafter e he
  rw [hmaps] at hnone
  exact Bool.eq_false_iff.mpr hnone

theorem not_mapped_of_override (hmaps : c.Maps) {directives : List String}
    (h : c.override? directives = none) :
    ∀ d ∈ directives, c.settings.mapsDirective d = false := by
  intro d hd
  have hnil := List.getLast?_eq_none_iff.mp (Option.map_eq_none_iff.mp h)
  rw [← hmaps]
  exact Bool.eq_false_iff.mpr (List.filter_eq_nil_iff.mp hnil d hd)

/-- An override is typed by its directive, whatever the declared type is. -/
theorem typedAs_override (hmaps : c.Maps) {o : Reference} (h : c.override? i.directives = some o)
    (ordinary : Reference → TypeExpr Reference → Prop) :
    c.TypedAs i ordinary { wrappers := [], core := o } := by
  obtain ⟨d, hlast, rfl⟩ := isLastMapped_of_override hmaps h
  exact Or.inl ⟨d, hlast, rfl, rfl⟩

theorem isOptional_inputMember {a : Attribute} (h : c.inputMember i = .ok a) :
    a.type.isOptional = c.settings.inputIsOptional i.type i.hasDefault := by
  obtain ⟨_, _, ⟨_, _, htype⟩ | ⟨_, _, _, htype⟩⟩ := inputMember_ok h
  · rw [htype]
    rfl
  · rw [htype]
    rfl

theorem passes_of_inputMember (hmaps : c.Maps) {a : Attribute} (h : c.inputMember i = .ok a) :
    c.Passes i a := by
  obtain ⟨_, hname, htype⟩ := inputMember_ok h
  refine ⟨hname, ?_, isOptional_inputMember h, ?_⟩
  · rcases htype with ⟨o, ho, htype⟩ | ⟨ho, core, hcore, htype⟩
    · rw [htype]
      exact typedAs_override hmaps ho _
    · rw [htype]
      exact Or.inr ⟨not_mapped_of_override hmaps ho, core, hcore, rfl⟩
  · intro c' b hsettings hb
    rw [isOptional_inputMember h, isOptional_inputMember hb, hsettings]
    rfl

theorem requires_of_variant (hmaps : c.Maps) {input : String} {fields : List InputValue}
    {v : Variant} (h : c.variant input fields i = .ok v) : c.Requires fields i v := by
  obtain ⟨hnull, type, htype, rfl⟩ := variant_ok h
  refine ⟨type, rfl, ?_⟩
  rcases requiredType_ok htype with ⟨o, ho, rfl⟩ | ⟨ho, core, hcore, rfl⟩
  · exact typedAs_override hmaps ho _
  · exact Or.inr ⟨not_mapped_of_override hmaps ho, core, hcore,
      inputExpr_of_nullable c.settings hnull core⟩

end Scope

/-! ## The inputs of a run -/

namespace RunParts

variable {schema : Schema} {s : Settings}

theorem scope_maps (p : RunParts schema s) : p.scope.Maps := has_mapped p.gathered

/-- Each input that a run declares is typed by its last mapped directive, if it has one. -/
structure Overrides (p : RunParts schema s) : Prop where
  plain : ∀ t ∈ schema.userTypes, ∀ flag fields, t.body = .input flag fields → t.isOneOf = false →
    ∃ members, p.scope.declareType t (.input s.kinds.input members) ∈ p.emission.declarations ∧
      List.Forall₂ p.scope.Passes fields members
  oneOf : ∀ t ∈ schema.userTypes, ∀ flag fields, t.body = .input flag fields → t.isOneOf = true →
    ∃ variants, p.scope.declareType t (.oneOf s.immutable variants) ∈ p.emission.declarations ∧
      List.Forall₂ (p.scope.Requires fields) fields variants
  arguments : ∀ t ∈ schema.userTypes, ∀ interfaces fields,
    t.body = .object interfaces fields ∨ t.body = .interface interfaces fields →
      ∀ f ∈ fields, f.arguments ≠ [] → ∃ members,
        p.scope.declare (s.argsName t.name f.name) none (.arguments s.kinds.arguments members) ∈
          p.emission.declarations ∧
        List.Forall₂ p.scope.Passes f.arguments members

theorem passes_of_mapM (p : RunParts schema s) {is : List InputValue} {members : List Attribute}
    (h : is.mapM p.scope.inputMember = .ok members) : List.Forall₂ p.scope.Passes is members :=
  (mapM_eq_ok.mp h).imp fun _ _ => Scope.passes_of_inputMember p.scope_maps

theorem argumentBags_declared (p : RunParts schema s) {t : NamedType} (ht : t ∈ schema.userTypes)
    {interfaces : List String} {fields : List Field}
    (hbody : t.body = .object interfaces fields ∨ t.body = .interface interfaces fields) :
    ∃ bags, p.scope.argumentBags t.name fields = .ok bags ∧ bags ⊆ p.emission.declarations := by
  obtain ⟨ds, hds, hsub⟩ := p.declarationsFor_ok ht
  cases Scope.declared_of_ok hds with
  | object hbody' _ hbags | interface hbody' _ hbags =>
    rw [hbody'] at hbody
    rcases hbody with hbody | hbody
    all_goals cases hbody
    exact ⟨_, hbags, fun d hd => hsub (List.mem_cons_of_mem _ hd)⟩
  | _ => simp_all

theorem overrides (p : RunParts schema s) : p.Overrides where
  plain := by
    intro t ht flag fields hbody hone
    obtain ⟨ds, hds, hsub⟩ := p.declarationsFor_ok ht
    cases Scope.declared_of_ok hds with
    | input hbody' _ hmembers =>
      obtain ⟨rfl, rfl⟩ := TypeBody.input.inj (hbody.symm.trans hbody')
      exact ⟨_, hsub List.mem_cons_self, p.passes_of_mapM hmembers⟩
    | oneOf _ hone' => simp [hone] at hone'
    | _ => simp_all
  oneOf := by
    intro t ht flag fields hbody hone
    obtain ⟨ds, hds, hsub⟩ := p.declarationsFor_ok ht
    cases Scope.declared_of_ok hds with
    | oneOf hbody' _ hvariants =>
      obtain ⟨rfl, rfl⟩ := TypeBody.input.inj (hbody.symm.trans hbody')
      exact ⟨_, hsub List.mem_cons_self, (mapM_eq_ok.mp hvariants).imp fun _ _ =>
        Scope.requires_of_variant p.scope_maps⟩
    | input _ hone' => simp [hone] at hone'
    | _ => simp_all
  arguments := by
    intro t ht interfaces fields hbody f hf harguments
    obtain ⟨bags, hbags, hsub⟩ := p.argumentBags_declared ht hbody
    obtain ⟨d, hd, hbag⟩ := exists_mem_of_mapM hbags
      (List.mem_filter.mpr ⟨hf, by simpa using harguments⟩)
    obtain ⟨members, hmembers, hbag⟩ := bind_eq_ok.mp hbag
    rw [pure_eq_ok] at hbag
    exact ⟨members, hbag ▸ hsub hd, p.passes_of_mapM hmembers⟩

end RunParts

/-- The directives that decide what is made of a document: those with a mapping, and the one that
deprecates. On a type the one that asks for a single field stays, too. -/
def decisive (s : Settings) (directive : String) : Bool :=
  s.mapsDirective directive || directive = "deprecated"

/-- **The last mapped directive of an input decides its type, wherever the input stands, but not
whether it may be left out.** Where directives without a mapping are put in, taken away or moved, the
output stays the same; in a document this goes for all but those that deprecate. -/
theorem emit_overrides {schema : Schema} {s : Settings} {out : Output}
    (h : emit schema s = .ok out) :
    ∃ p : RunParts schema s, p.Gives out ∧ p.Overrides ∧
      (∀ schema' : Schema, schema'.sift s.mapsDirective = schema.sift s.mapsDirective →
        emit schema' s = .ok out) ∧
      ∀ (doc doc' : Sdl.Document) (schema' : Schema), Schema.ofDocument doc = .ok schema →
        Schema.ofDocument doc' = .ok schema' → doc'.sift (decisive s) = doc.sift (decisive s) →
          emit schema' s = .ok out := by
  obtain ⟨p, hp⟩ := exists_gives h
  -- What the run does not look at may be sifted out of both schemas.
  have hsift : ∀ (keep : String → Bool) {schema' : Schema},
      (∀ d, s.mapsDirective d = true → keep d = true) → schema'.sift keep = schema.sift keep →
        emit schema' s = .ok out := by
    intro keep schema' hkeep hsame
    rw [← emit_sift hkeep, hsame, emit_sift hkeep, h]
  refine ⟨p, hp, p.overrides, fun _ hsame => hsift _ (fun _ => id) hsame, ?_⟩
  intro doc doc' schema' hdoc hdoc' hsame
  refine hsift (decisive s) ?_ (Schema.sift_eq_of_documents ?_ hdoc hdoc' hsame)
  · intro d hd
    rw [decisive, hd, Bool.true_or]
  · simp [decisive]

/-! ## Two documents -/

def isoOptions : Options :=
  Options.ofTable [("directive_argument_and_input_field_mappings",
    .object [("iso", .text "string"), ("raw", .text "models#Raw")])]

/-- A search with inputs of all three sorts and directives on each of them: `first` stands in a plain
input, `id` and `name` in one of which a single field is given, `key` and `page` are arguments. -/
def searchDocument (first onKey id name key page : List String) : Sdl.Document :=
  let uses (names : List String) : List Sdl.DirectiveUse :=
    names.map fun name => { name, arguments := [] }
  let directive (name : String) : Sdl.Definition := .directive
    { description := none, name, arguments := [], directives := [], repeatable := true,
      locations := ["ARGUMENT_DEFINITION", "INPUT_FIELD_DEFINITION", "INPUT_OBJECT"] }
  let type (name : String) (names : List String) (body : Sdl.TypeBody) : Sdl.Definition := .type
    { description := none, name, directives := uses names, body }
  let input (name : String) (type : TypeRef) (default : Option Sdl.Const) (names : List String) :
      Sdl.InputDef := { description := none, name, type, default, directives := uses names }
  [directive "iso", directive "raw", directive "seen",
    type "Page" [] (.input
      [input "first" (.list false (.named false "Int")) (some (.list [])) first]),
    type "Key" onKey (.input
      [input "id" (.list true (.named true "ID")) none id,
        input "name" (.named true "String") none name]),
    type "Query" [] (.object []
      [{ description := none, name := "find", type := .named true "Int", directives := []
         arguments :=
          [input "key" (.named false "Key") none key,
            input "page" (.named true "Page") none page] }])]

/-- A directive that is not mapped stands among those that are. -/
def seenDocument : Sdl.Document :=
  searchDocument ["raw", "seen", "iso", "seen"] ["oneOf"] ["iso", "raw"] [] ["seen", "iso"] []

/-- The same with that directive in other places. -/
def movedDocument : Sdl.Document :=
  searchDocument ["raw", "iso"] ["seen", "oneOf"] ["seen", "iso", "raw"] ["seen"] ["iso", "seen"]
    ["seen"]

def searchBlocks : List String :=
  ["export type Page = \x7b\n  first?: DirectiveArgumentAndInputFieldMappings['iso'];\n\x7d;",
    "export type Key =\n" ++
      "  \x7b id: DirectiveArgumentAndInputFieldMappings['raw']; name?: never; \x7d\n" ++
      "  | \x7b id?: never; name: Scalars['String']; \x7d;",
    "export type QueryFindArgs = \x7b\n  key: DirectiveArgumentAndInputFieldMappings['iso'];\n" ++
      "  page?: InputMaybe<Page>;\n\x7d;"]

theorem emit_overrides_search : ∃ schema schema' s out,
    Schema.ofDocument seenDocument = .ok schema ∧ Schema.ofDocument movedDocument = .ok schema' ∧
    Settings.ofOptions isoOptions = .ok s ∧ emit schema s = .ok out ∧
    (∀ block ∈ searchBlocks, block ∈ out.content) ∧
    movedDocument.sift (decisive s) = seenDocument.sift (decisive s) ∧
    (∃ p : RunParts schema s, p.Gives out ∧ p.Overrides) ∧ emit schema' s = .ok out := by
  have hrun : ((Schema.ofDocument seenDocument).toOption.any fun schema =>
      (Schema.ofDocument movedDocument).toOption.any fun _ =>
        (Settings.ofOptions isoOptions).toOption.any fun s => (emit schema s).toOption.any fun out =>
          searchBlocks.all fun block => out.content.contains block) = true := by
    decide +kernel
  have hmappings : (Settings.ofOptions isoOptions).map Settings.directiveMappings =
      .ok [("iso", .text "string"), ("raw", .text "models#Raw")] := by
    rfl
  obtain ⟨schema, hschema, hrun⟩ := (Option.any_eq_true ..).mp hrun
  obtain ⟨schema', hschema', hrun⟩ := (Option.any_eq_true ..).mp hrun
  obtain ⟨s, hsettings, hrun⟩ := (Option.any_eq_true ..).mp hrun
  obtain ⟨out, hemit, hblocks⟩ := (Option.any_eq_true ..).mp hrun
  rw [toOption_eq_some] at hschema hschema' hsettings hemit
  rw [hsettings] at hmappings
  have hsame : movedDocument.sift (decisive s) = seenDocument.sift (decisive s) := by
    have hkeep : decisive s =
        fun d => Table.has [("iso", Value.text "string"), ("raw", .text "models#Raw")] d ||
          d = "deprecated" := by
      funext d
      rw [decisive, Settings.mapsDirective, Except.ok.inj hmappings]
    rw [hkeep]
    rfl
  obtain ⟨p, hp, hoverrides, _, hdocuments⟩ := emit_overrides hemit
  refine ⟨schema, schema', s, out, hschema, hschema', hsettings, hemit, ?_, hsame,
    ⟨p, hp, hoverrides⟩, hdocuments _ _ _ hschema hschema' hsame⟩
  exact fun block hblock => List.contains_iff_mem.mp (List.all_eq_true.mp hblocks block hblock)

/-- A field that is not mapped, in an input of which one field is given. -/
def unmappedText : String :=
  "directive @iso on INPUT_FIELD_DEFINITION input One@oneOf\x7ba:Int b:Int@iso\x7d"

def unmappedBlock : String :=
  "export type One =\n  \x7b a: Scalars['Int']; b?: never; \x7d\n" ++
    "  | \x7b a?: never; b: DirectiveArgumentAndInputFieldMappings['iso']; \x7d;"

def hasUnmapped (schema : Schema) : Bool :=
  schema.userTypes.any fun t =>
    match t.body with
    | .input true (i :: _) => i.name = "a" && i.type = .named true "Int" && i.directives.isEmpty
    | _ => false

theorem variant_not_ordinary : ∃ schema s out, Schema.ofText unmappedText = .ok schema ∧
    Settings.ofOptions isoOptions = .ok s ∧ emit schema s = .ok out ∧
    hasUnmapped schema = true ∧
    (s.inputExpr (.named true "Int") (Reference.scalar "Int")).render Reference.render =
      "InputMaybe<Scalars['Int']>" ∧
    unmappedBlock ∈ out.content := by
  have hruns : runs unmappedText isoOptions (fun schema s => hasUnmapped schema &&
      (emit schema s).toOption.any fun out => out.content.contains unmappedBlock) = true := by
    decide +kernel
  obtain ⟨schema, s, out, hschema, hsettings, hemit, hcheck⟩ := exists_of_runs hruns
  obtain ⟨hunmapped, hblock⟩ := Bool.and_eq_true_iff.mp hcheck
  rw [hemit] at hblock
  exact ⟨schema, s, out, hschema, hsettings, hemit, hunmapped, rfl, List.contains_iff_mem.mp hblock⟩

end Code

end SchemaTypings
