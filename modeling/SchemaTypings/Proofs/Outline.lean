import SchemaTypings.Proofs.Bindings
import SchemaTypings.Proofs.Cutting
import SchemaTypings.Proofs.Layout
import SchemaTypings.Proofs.Readable
import SchemaTypings.Proofs.TypeNames

/-!
# The outline of a file

Which blocks a file has is known from the schema and the settings alone: the outline lists them in
order. Each block of an output is written for the entry of the outline at its place, and there is no
other block.
-/

open SchemaTypings.Outcome

namespace SchemaTypings.Code

/-! ## The outline -/

/-- What a block of a file is written for. -/
inductive Entry where
  | scalars
  | directiveMappings
  | type (t : NamedType)
  | arguments (owner : NamedType) (f : Field)
  | reexport (enum : String)

def Entry.label : Entry → String
  | scalars => "scalars"
  | directiveMappings => "mapped directives"
  | type t => t.name
  | arguments owner f => owner.name ++ "." ++ f.name
  | reexport enum => "export " ++ enum

/-- What a block is called that is written for an entry. -/
def Entry.identifier (s : Settings) : Entry → String
  | .scalars => scalarsName
  | .directiveMappings => directiveMappingsName
  | .type t => if Emission.isEnum t then s.enumName t.name else s.typeName t.name
  | .arguments owner f => s.argsName owner.name f.name
  | .reexport enum => enum

/-- The entries of the fields that have arguments. -/
def bagEntries (t : NamedType) (fields : List Field) : List Entry :=
  (fields.filter fun f => !f.arguments.isEmpty).map (.arguments t)

/-- An object or an interface is followed by the arguments of its fields. Scalars have no block, and
neither have enums that live elsewhere. -/
def typeEntries (s : Settings) (t : NamedType) : List Entry :=
  match t.body with
  | .scalar => []
  | .enum _ => if s.isExternalEnum t.name then [] else [.type t]
  | .object _ fields | .interface _ fields => .type t :: bagEntries t fields
  | .union _ | .input .. => [.type t]

def externalEnums (schema : Schema) (s : Settings) : List String :=
  ((schema.userTypes.filter Emission.isEnum).map NamedType.name).filter s.isExternalEnum

def outline (schema : Schema) (s : Settings) : List Entry :=
  [.scalars] ++ (if s.directiveMappings.isEmpty then [] else [.directiveMappings]) ++
    schema.userTypes.flatMap (typeEntries s) ++
    (if s.noExport then [] else (externalEnums schema s).map .reexport)

/-! ## Blocks for entries -/

namespace Scope

variable {c : Scope}

/-- The members of a block that stand for fields: one for each field, in order and under its name. -/
def OutputMembers (c : Scope) : List Field → List Attribute → Prop :=
  List.Forall₂ fun f a => a.name = f.name ∧ c.outputMember f = .ok a

def InputMembers (c : Scope) : List InputValue → List Attribute → Prop :=
  List.Forall₂ fun i a => a.name = i.name ∧ c.inputMember i = .ok a

def EnumLines (c : Scope) : List EnumMember → List EnumLine → Prop :=
  List.Forall₂ fun m l => l.member = m ∧ c.enumLine m = .ok l

theorem outputMembers_of_ok {fields : List Field} {members : List Attribute}
    (h : fields.mapM c.outputMember = .ok members) : c.OutputMembers fields members :=
  (mapM_eq_ok.mp h).imp fun _ _ ha => ⟨(outputMember_ok ha).choose_spec.2.2.1, ha⟩

theorem inputMembers_of_ok {inputs : List InputValue} {members : List Attribute}
    (h : inputs.mapM c.inputMember = .ok members) : c.InputMembers inputs members :=
  (mapM_eq_ok.mp h).imp fun _ _ ha => ⟨(inputMember_ok ha).2.1, ha⟩

theorem enumLines_of_ok {ms : List EnumMember} {lines : List EnumLine}
    (h : ms.mapM c.enumLine = .ok lines) : c.EnumLines ms lines :=
  (mapM_eq_ok.mp h).imp fun _ _ hl => ⟨(enumLine_ok hl).2.2, hl⟩

/-- The declaration that an entry calls for. -/
inductive Declares (c : Scope) : Entry → Declaration → Prop
  | scalars {table} (htable : ScalarTable.ofSchema c.schema c.settings = .ok table) :
      Declares c .scalars (c.scalarsDeclaration table)
  | directiveMappings : Declares c .directiveMappings c.mappingsDeclaration
  | enum {t values lines} (hbody : t.body = .enum (.ok values))
      (hlines : c.EnumLines (c.settings.enumMembers t.name values) lines) :
      Declares c (.type t) (c.declare (c.settings.enumName t.name) (c.typeComment t.description)
        (.enum c.settings.enumForm c.settings.futureProofEnums lines))
  | object {t interfaces fields members} (hbody : t.body = .object interfaces fields)
      (hmembers : c.OutputMembers fields members) :
      Declares c (.type t) (c.declareType t (.object c.settings.kinds.object
        (interfaces.map c.settings.typeName) (c.typename t.name) members))
  | interface {t interfaces fields members} (hbody : t.body = .interface interfaces fields)
      (hmembers : c.OutputMembers fields members) :
      Declares c (.type t) (c.declareType t (.interface c.settings.kinds.interface
        (interfaces.map c.settings.typeName) members))
  | arguments {t : NamedType} {f members} (hmembers : c.InputMembers f.arguments members) :
      Declares c (.arguments t f) (c.declare (c.settings.argsName t.name f.name) none
        (.arguments c.settings.kinds.arguments members))
  | union {t members references} (hbody : t.body = .union members)
      (hreferences : members.mapM c.reference = .ok references) :
      Declares c (.type t) (c.declareType t (.union references
        (if c.settings.futureProofUnions then some c.settings.immutable else none)))
  | oneOf {t flag fields variants} (hbody : t.body = .input flag fields) (hone : t.isOneOf = true)
      (hvariants : fields.mapM (c.variant t.name fields) = .ok variants) :
      Declares c (.type t) (c.declareType t (.oneOf c.settings.immutable variants))
  | input {t flag fields members} (hbody : t.body = .input flag fields)
      (hone : t.isOneOf = false) (hmembers : c.InputMembers fields members) :
      Declares c (.type t) (c.declareType t (.input c.settings.kinds.input members))

/-- The text of a block that an entry calls for. -/
inductive Writes (c : Scope) : Entry → String → Prop
  | declaration {e d} (h : c.Declares e d) : Writes c e d.render
  | reexport {enum} : Writes c (.reexport enum) (ImportLedger.reexportLine enum)

theorem Declares.identifier {e : Entry} {d : Declaration} (h : c.Declares e d) :
    d.identifier = e.identifier c.settings := by
  cases h with
  | scalars | directiveMappings | arguments => rfl
  | enum hbody | object hbody | interface hbody | union hbody | oneOf hbody | input hbody =>
    simp [Entry.identifier, Emission.isEnum, hbody, declare, declareType]

/-- The block of an entry is called by its name. -/
theorem Writes.named {e : Entry} {text : String} (h : c.Writes e text) :
    ' ' :: ((e.identifier c.settings).toList ++ [' ']) <:+: text.toList := by
  cases h with
  | declaration hd => exact hd.identifier ▸ (Declaration.shows_render _).name
  | reexport =>
    exact ⟨"export \x7b".toList, "\x7d;".toList, by simp [ImportLedger.reexportLine, Entry.identifier]⟩

theorem Writes.shows {e : Entry} {text : String} (h : c.Writes e text)
    (hdeclared : ∀ enum, e ≠ .reexport enum) : ∃ d, c.Declares e d ∧ d.Shows text := by
  cases h with
  | declaration hd => exact ⟨_, hd, Declaration.shows_render _⟩
  | reexport => exact absurd rfl (hdeclared _)

theorem declares_bags {t : NamedType} {fields : List Field} {bags : List Declaration}
    (h : c.argumentBags t.name fields = .ok bags) :
    List.Forall₂ c.Declares (bagEntries t fields) bags := by
  unfold argumentBags at h
  rw [bagEntries, List.forall₂_map_left_iff]
  refine (mapM_eq_ok.mp h).imp fun f d hd => ?_
  obtain ⟨members, hmembers, hd⟩ := bind_eq_ok.mp hd
  rw [pure_eq_ok] at hd
  rw [← hd]
  exact .arguments (inputMembers_of_ok hmembers)

end Scope

/-! ## Enums that live elsewhere -/

theorem source_ofIdentifier (module : Value) (identifier : List Char) (typeName suffix : String) :
    (Mapper.ofIdentifier module identifier typeName suffix).source.isSome = true := by
  unfold Mapper.ofIdentifier Mapper.ofDefault
  simp only
  split
  · rfl
  · split <;> rfl

theorem source_ofObject {fields : Table String Value} {typeName suffix : String} {m : Mapper}
    (h : Mapper.ofObject fields typeName suffix = .ok m) : m.source.isSome = true := by
  unfold Mapper.ofObject at h
  simp only at h
  split at h
  · split at h
    · rw [← Except.ok.inj h]
      rfl
    · split at h
      · rw [← Except.ok.inj h]
        exact source_ofIdentifier _ _ _ _
      · split at h
        · rw [← Except.ok.inj h]
          exact source_ofIdentifier _ _ _ _
        · cases h
  · cases h

theorem source_of_pointsOutside {v : Value} (houtside : Mapper.pointsOutside v = true)
    {name suffix : String} {m : Mapper} (h : Mapper.ofValue v name suffix = .ok m) :
    m.source.isSome = true := by
  cases v with
  | text s =>
    obtain ⟨pieces, hcut⟩ := Text.exists_cutLast (List.contains_iff_mem.mp houtside)
    simp only [Mapper.ofValue, hcut] at h
    rw [← Except.ok.inj h]
    exact source_ofIdentifier _ _ _ _
  | object fields => exact source_ofObject h
  | null | bool _ | int _ | float _ | list _ => cases houtside

theorem externalEnum_ok {s : Settings} {enum : String} {external : Option Mapper}
    (h : s.externalEnum? enum = .ok external) :
    external.isSome = s.isExternalEnum enum ∧
      ∀ m, external = some m → m.source.isSome = true := by
  -- A mapping is read as external just if it points at another module.
  have hmapped : ∀ v : Value, Mapper.pointsOutside v = true →
      (Mapper.ofValue v enum).map some = .ok external →
        external.isSome = true ∧ ∀ m, external = some m → m.source.isSome = true := by
    intro v houtside h
    obtain ⟨m, hm, rfl⟩ := map_eq_ok.mp h
    exact ⟨rfl, fun _ hsome => Option.some.inj hsome ▸ source_of_pointsOutside houtside hm⟩
  have hlocal : (Except.ok none : Except MappingError (Option Mapper)) = .ok external →
      external.isSome = false ∧ ∀ m, external = some m → m.source.isSome = true := by
    intro h
    rw [← Except.ok.inj h]
    exact ⟨rfl, nofun⟩
  revert h
  unfold Settings.externalEnum? Settings.isExternalEnum
  cases s.enumValues with
  | module path =>
    have houtside : Mapper.pointsOutside (.text (path ++ "#" ++ enum)) = true := by
      simp [Mapper.pointsOutside]
    exact hmapped _ houtside
  | table entries =>
    simp only
    cases Table.get? entries enum with
    | none => exact hlocal
    | some v =>
      simp only [Option.any_some]
      cases houtside : Mapper.pointsOutside v with
      | false => exact hlocal
      | true => exact hmapped v houtside

theorem Scope.Declared.declares {c : Scope} {t : NamedType} {ds : List Declaration}
    (h : c.Declared t ds) : List.Forall₂ c.Declares (typeEntries c.settings t) ds := by
  unfold typeEntries
  cases h with
  | scalar hbody =>
    rw [hbody]
    exact .nil
  | externalEnum hbody hexternal =>
    rw [hbody]
    -- The outline asks whether the enum is external, the run whether its mapping has a module.
    simp only [← (externalEnum_ok hexternal).1]
    exact .nil
  | localEnum hbody hlocal hlines =>
    rw [hbody]
    simp only [← (externalEnum_ok hlocal).1]
    exact .cons (.enum hbody (Scope.enumLines_of_ok hlines)) .nil
  | object hbody hmembers hbags =>
    rw [hbody]
    exact .cons (.object hbody (Scope.outputMembers_of_ok hmembers)) (Scope.declares_bags hbags)
  | interface hbody hmembers hbags =>
    rw [hbody]
    exact .cons (.interface hbody (Scope.outputMembers_of_ok hmembers)) (Scope.declares_bags hbags)
  | union hbody hreferences =>
    rw [hbody]
    exact .cons (.union hbody hreferences) .nil
  | oneOf hbody hone hvariants =>
    rw [hbody]
    exact .cons (.oneOf hbody hone hvariants) .nil
  | input hbody hone hmembers =>
    rw [hbody]
    exact .cons (.input hbody hone (Scope.inputMembers_of_ok hmembers)) .nil

/-! ## What is passed on -/

theorem reexports_addMapper {l l' : ImportLedger} {m : Mapper} {typeOnly : Option Value}
    (h : l.addMapper m typeOnly = .ok l') : l'.reexports = l.reexports := by
  unfold ImportLedger.addMapper at h
  split at h
  · rw [Except.ok.inj h]
  · obtain ⟨⟨r, next⟩, hadd, rfl⟩ := map_eq_ok.mp h
    obtain ⟨_, _, _, hnext⟩ := ImportLedger.add_ok hadd
    exact hnext ▸ rfl

theorem reexports_addEnum {l l' : ImportLedger} {s : Settings} {enum : String}
    (h : l.addEnum s enum = .ok l') (hnew : enum ∉ l.reexports) :
    l'.reexports =
      l.reexports ++ if s.isExternalEnum enum && !s.noExport then [enum] else [] := by
  obtain ⟨external, hexternal, h⟩ := bind_eq_ok.mp h
  obtain ⟨hsome, hsource⟩ := externalEnum_ok hexternal
  rw [← hsome]
  rcases external with _ | ⟨type, _ | source⟩
  · rw [pure_eq_ok] at h
    simp [← h]
  -- A mapping without a module is no external enum.
  · cases hsource _ rfl
  · obtain ⟨⟨r, next⟩, hadd, h⟩ := bind_eq_ok.mp h
    obtain ⟨_, _, _, rfl⟩ := ImportLedger.add_ok hadd
    rw [pure_eq_ok] at h
    have hassigned : ∀ (renamed : Bool) (l : ImportLedger),
        (if renamed then l.addAssignment enum type else l).reexports = l.reexports := by
      intro renamed l
      cases renamed <;> rfl
    rw [← h]
    cases s.noExport with
    | true => simp [hassigned]
    | false => simp [ImportLedger.addReexport, hassigned, hnew]

theorem reexports_directives {s : Settings} {entries : List (String × Value)}
    {state state' : Table String Value × ImportLedger}
    (h : entries.foldlM (Emission.mapDirective s) state = .ok state') :
    state'.2.reexports = state.2.reexports := by
  refine foldlM_invariant (fun _ next => next.2.reexports = state.2.reexports) ?_ h rfl
  intro _ entry before after hbefore hstep
  obtain ⟨_, _, hstep⟩ := bind_eq_ok.mp hstep
  obtain ⟨_, hadd, hstep⟩ := bind_eq_ok.mp hstep
  rw [pure_eq_ok] at hstep
  rw [← hstep]
  exact (reexports_addMapper hadd).trans hbefore

theorem reexports_enums {s : Settings} {ts : List NamedType}
    (hnames : (ts.map NamedType.name).Nodup) {l l' : ImportLedger} (hl : l.reexports = [])
    (h : ts.foldlM (fun l t => l.addEnum s t.name) l = .ok l') :
    l'.reexports = if s.noExport then [] else (ts.map NamedType.name).filter s.isExternalEnum := by
  refine foldlM_invariant (fun done l => (done.map NamedType.name).Nodup → l.reexports =
      if s.noExport then [] else (done.map NamedType.name).filter s.isExternalEnum)
    ?_ h (fun _ => by simpa using hl) hnames
  intro done t before after hbefore hstep hnodup
  rw [List.map_append, List.nodup_append] at hnodup
  have hbefore := hbefore hnodup.1
  -- The names are distinct, so no enum is exported again a second time.
  have hnew : t.name ∉ before.reexports := by
    intro hmem
    rw [hbefore] at hmem
    split at hmem
    · cases hmem
    · exact hnodup.2.2 _ (List.mem_filter.mp hmem).1 _ List.mem_cons_self rfl
  rw [reexports_addEnum hstep hnew, hbefore, List.map_append, List.filter_append]
  cases s.noExport with
  | true => simp
  | false => simp [List.filter_cons]

theorem reexports_gather {schema : Schema} {s : Settings} (p : RunParts schema s)
    (hnames : (schema.types.map NamedType.name).Nodup) :
    p.ledger.reexports = if s.noExport then [] else externalEnums schema s := by
  obtain ⟨ofScalars, hscalars, h⟩ := bind_eq_ok.mp p.gathered
  obtain ⟨⟨mapped, ofDirectives⟩, hdirectives, h⟩ := bind_eq_ok.mp h
  obtain ⟨ledger, henums, h⟩ := bind_eq_ok.mp h
  rw [pure_eq_ok, Prod.mk.injEq] at h
  have hstart : ofScalars.reexports = [] := by
    refine foldlM_invariant (fun _ l => l.reexports = []) ?_ hscalars rfl
    exact fun _ _ _ _ hl hadd => (reexports_addMapper hadd).trans hl
  have hstart : ofDirectives.reexports = [] := (reexports_directives hdirectives).trans hstart
  rw [← h.2]
  refine reexports_enums (hnames.sublist (List.Sublist.map _ ?_)) hstart henums
  exact List.filter_sublist.trans List.filter_sublist

theorem mapped_isEmpty {schema : Schema} {s : Settings} (p : RunParts schema s) :
    p.mapped.isEmpty = s.directiveMappings.isEmpty := by
  obtain ⟨directives, hdirectives, hmapped⟩ := mapped_ok p
  rw [hmapped]
  have hlength := (mapM_eq_ok.mp hdirectives).length_eq
  cases directives with
  | nil =>
    rw [List.eq_nil_of_length_eq_zero hlength]
    rfl
  | cons m directives =>
    have hsome : s.directiveMappings.isEmpty = false := by
      rw [← Bool.not_eq_true, List.isEmpty_iff_length_eq_zero, hlength]
      exact Nat.succ_ne_zero _
    have hmem : m.1 ∈ Table.keys (Table.ofPairs (RunMappers.types (m :: directives))) :=
      (Table.mem_keys_putAll ..).mpr (Or.inr List.mem_cons_self)
    cases htable : Table.ofPairs (RunMappers.types (m :: directives)) with
    | nil =>
      rw [htable] at hmem
      cases hmem
    | cons _ _ => exact hsome.symm

namespace RunParts

variable {schema : Schema} {s : Settings}

theorem declares (p : RunParts schema s) :
    List.Forall₂ p.scope.Declares
      ([.scalars] ++ (if s.directiveMappings.isEmpty then [] else [.directiveMappings]) ++
        schema.userTypes.flatMap (typeEntries s)) p.emission.declarations := by
  have hmappings : List.Forall₂ p.scope.Declares
      (if s.directiveMappings.isEmpty then [] else [.directiveMappings]) p.mappings := by
    unfold mappings
    rw [mapped_isEmpty]
    split
    · exact .nil
    · exact .cons .directiveMappings .nil
  have htypes : List.Forall₂ p.scope.Declares (schema.userTypes.flatMap (typeEntries s))
      p.ofTypes.flatten := by
    have hall := mapM_eq_ok.mp p.declared
    generalize schema.userTypes = types at hall ⊢
    generalize p.ofTypes = ofTypes at hall ⊢
    induction hall with
    | nil => exact .nil
    | cons ht _ ih =>
      rw [List.flatMap_cons, List.flatten_cons]
      exact List.rel_append (Scope.declared_of_ok ht).declares ih
  exact List.rel_append (List.rel_append (.cons (.scalars p.scalars_ok) .nil) hmappings) htypes

end RunParts

theorem RunParts.writes {schema : Schema} {s : Settings} (p : RunParts schema s)
    (hbuilt : schema.Built) {out : Output} (hout : p.emission.output = .ok out) :
    List.Forall₂ p.scope.Writes (outline schema s) out.content := by
  obtain ⟨_, _, _, hcontent⟩ := output_parts hout
  rw [hcontent, outline]
  refine List.rel_append ?_ ?_
  · rw [List.forall₂_map_right_iff]
    exact p.declares.imp fun _ _ hd => .declaration hd
  · have hreexports : p.emission.ledger.reexports = _ :=
      reexports_gather p hbuilt.typeNames_nodup
    rw [ImportLedger.reexportLines, hreexports]
    split
    · exact .nil
    · rw [List.forall₂_map_left_iff, List.forall₂_map_right_iff, List.forall₂_same]
      exact fun _ _ => .reexport

/-- **The blocks of a file are those of its outline**, in order and one for each entry. -/
theorem emit_outline {schema : Schema} {s : Settings} {out : Output} (hbuilt : schema.Built)
    (h : emit schema s = .ok out) :
    ∃ p : RunParts schema s, List.Forall₂ p.scope.Writes (outline schema s) out.content := by
  obtain ⟨e, he, hout⟩ := emission_of_emit h
  obtain ⟨p, rfl⟩ := exists_parts he
  exact ⟨p, p.writes hbuilt hout⟩

/-- The blocks of a file are called by the names of its outline. -/
theorem emit_named {schema : Schema} {s : Settings} {out : Output} (hbuilt : schema.Built)
    (h : emit schema s = .ok out) :
    List.Forall₂ (fun e text => ' ' :: ((e.identifier s).toList ++ [' ']) <:+: text.toList)
      (outline schema s) out.content := by
  obtain ⟨e, he, hout⟩ := emission_of_emit h
  obtain ⟨p, rfl⟩ := exists_parts he
  exact (p.writes hbuilt hout).imp fun _ _ hwrites => hwrites.named

/-- A field with arguments, and an enum of another module. -/
def shopText : String :=
  "enum Color\x7bRED\x7d enum Unit\x7bKG\x7d interface Node\x7bid:ID\x7d " ++
  "type Item implements Node\x7bid:ID weight(unit:Unit):Int\x7d " ++
  "union Found=Item input Key @oneOf\x7bid:ID\x7d"

def shopOptions : Options :=
  Options.ofTable [("enum_values", .object [("Unit", .text "units#Unit")]),
    ("directive_argument_and_input_field_mappings", .object [("mapped", .text "string")])]

theorem emit_outline_shop : ∃ schema s out, Schema.ofText shopText = .ok schema ∧
    Settings.ofOptions shopOptions = .ok s ∧ schema.Built ∧ emit schema s = .ok out ∧
    (outline schema s).map Entry.label = ["scalars", "mapped directives", "Color", "Node", "Item",
      "Item.weight", "Found", "Key", "export Unit"] ∧
    ∃ p : RunParts schema s, List.Forall₂ p.scope.Writes (outline schema s) out.content := by
  have hruns : runs shopText shopOptions (fun schema s => decide ((outline schema s).map Entry.label =
      ["scalars", "mapped directives", "Color", "Node", "Item", "Item.weight", "Found", "Key",
        "export Unit"])) = true := by
    decide +kernel
  obtain ⟨schema, s, out, hschema, hsettings, hemit, hlabels⟩ := exists_of_runs hruns
  exact ⟨schema, s, out, hschema, hsettings, .ofText hschema, hemit, of_decide_eq_true hlabels,
    emit_outline (.ofText hschema) hemit⟩

end SchemaTypings.Code
