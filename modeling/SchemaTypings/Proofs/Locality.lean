import SchemaTypings.Proofs.Bindings
import SchemaTypings.Proofs.Mentions
import SchemaTypings.Proofs.NameMemory
import SchemaTypings.Proofs.TypeNames
import SchemaTypings.Schema.Introspection

/-!
# Blocks of one type

Where no objects are looked up behind interfaces, the blocks of a type come from its definition, the
settings and the kinds of the types that it names. No other type has a say in them.
-/

open SchemaTypings.Outcome

namespace SchemaTypings

/-! ## Kinds -/

def TypeBody.kind : TypeBody → Introspection.Kind
  | scalar => .scalar
  | object .. => .object
  | interface .. => .interface
  | union _ => .union
  | enum _ => .enum
  | input .. => .input

namespace Schema

def kind? (schema : Schema) (name : String) : Option Introspection.Kind :=
  (schema.find? name).map fun t => t.body.kind

/-- All names that a type refers to are of one kind in two schemas. -/
def SameKinds (schema schema' : Schema) (t : NamedType) : Prop :=
  ∀ n ∈ namedBy t, schema.kind? n = schema'.kind? n

instance (schema schema' : Schema) (t : NamedType) : Decidable (SameKinds schema schema' t) :=
  inferInstanceAs (Decidable (∀ n ∈ namedBy t, schema.kind? n = schema'.kind? n))

theorem find?_of_subset {schema schema' : Schema} (hsub : schema.types ⊆ schema'.types)
    (hnames : (schema'.types.map NamedType.name).Nodup) {n : String}
    (hnew : ∀ d ∈ schema'.types, d ∈ schema.types ∨ d.name ≠ n) :
    schema.find? n = schema'.find? n := by
  by_cases hn : ∃ u ∈ schema.types, u.name = n
  · obtain ⟨u, hu, hname, hfind⟩ := find?_of_mem hn
    obtain ⟨u', hu', hname', hfind'⟩ := find?_of_mem ⟨u, hsub hu, hname⟩
    -- The names are distinct, so both schemas find the same type.
    rw [hfind, hfind', List.inj_on_of_nodup_map hnames (hsub hu) hu' (hname.trans hname'.symm)]
  · have hold : schema.types.find? (fun t => t.name = n) = none := by
      simpa using hn
    have hnone : schema'.types.find? (fun t => t.name = n) = none := by
      rw [List.find?_eq_none]
      intro u hu hname
      rcases hnew u hu with hu | hne
      · exact hn ⟨u, hu, of_decide_eq_true hname⟩
      · exact hne (of_decide_eq_true hname)
    unfold find?
    rw [List.find?_append, List.find?_append, hold, hnone]

theorem sameKinds_of_subset {schema schema' : Schema} (hsub : schema.types ⊆ schema'.types)
    (hnames : (schema'.types.map NamedType.name).Nodup) {t : NamedType}
    (hnew : ∀ d ∈ schema'.types, d ∈ schema.types ∨ d.name ∉ namedBy t) :
    SameKinds schema schema' t := by
  intro n hn
  unfold kind?
  rw [find?_of_subset hsub hnames fun d hd => (hnew d hd).imp_right fun hd heq => hd (heq ▸ hn)]

end Schema

namespace Code

/-! ## One type under two schemas -/

namespace Scope

variable {c : Scope} {schema' : Schema} {t : NamedType}

/-- The same run over another schema. -/
def inSchema (c : Scope) (schema : Schema) : Scope := { c with schema }

/-- What a name is referred to as if it stands for a type of some kind, or for none. -/
def referenceTo (c : Scope) (n : String) : Option Introspection.Kind → Except EmitError Reference
  | some .scalar => .ok (.scalar n)
  | some .enum => mapError ((c.settings.enumIdentifier n).map c.settings.enumReference)
  | _ => .ok (.declared (c.settings.typeName n))

theorem reference_eq (c : Scope) (n : String) :
    c.reference n = c.referenceTo n (c.schema.kind? n) := by
  unfold reference Schema.kind?
  rcases c.schema.find? n with _ | ⟨_, _, _, body⟩
  · rfl
  · cases body <;> rfl

theorem reference_of_kind {n : String} (h : c.schema.kind? n = schema'.kind? n) :
    c.reference n = (c.inSchema schema').reference n := by
  rw [reference_eq, reference_eq, h]
  rfl

theorem outputMember_inSchema (hlookup : c.settings.implementingTypes = false) {f : Field}
    (h : c.reference f.type.name = (c.inSchema schema').reference f.type.name) :
    c.outputMember f = (c.inSchema schema').outputMember f := by
  have hcore : c.outputReference f.type.name =
      (c.inSchema schema').outputReference f.type.name := by
    unfold outputReference
    rw [show (c.inSchema schema').settings = c.settings from rfl, hlookup]
    exact h
  unfold outputMember
  rw [hcore]
  rfl

theorem inputMember_inSchema {i : InputValue}
    (h : c.reference i.type.name = (c.inSchema schema').reference i.type.name) :
    c.inputMember i = (c.inSchema schema').inputMember i := by
  unfold inputMember
  rw [h]
  rfl

theorem variant_inSchema {input : String} {fields : List InputValue} {i : InputValue}
    (h : c.reference i.type.name = (c.inSchema schema').reference i.type.name) :
    c.variant input fields i = (c.inSchema schema').variant input fields i := by
  unfold variant requiredType
  rw [h]
  rfl

theorem argumentBags_inSchema {owner : String} {fields : List Field}
    (h : ∀ f ∈ fields, ∀ i ∈ f.arguments,
      c.reference i.type.name = (c.inSchema schema').reference i.type.name) :
    c.argumentBags owner fields = (c.inSchema schema').argumentBags owner fields := by
  unfold argumentBags
  refine mapM_congr fun f hf => ?_
  unfold argumentBag
  rw [mapM_congr fun i hi => inputMember_inSchema (h f (List.mem_filter.mp hf).1 i hi)]
  rfl

theorem declarationsFor_inSchema (hlookup : c.settings.implementingTypes = false)
    (h : ∀ n ∈ Schema.namedBy t, c.reference n = (c.inSchema schema').reference n) :
    c.declarationsFor t = (c.inSchema schema').declarationsFor t := by
  have hfields : ∀ fields : List Field,
      (∀ f ∈ fields, ∀ n ∈ f.type.name :: f.arguments.map (·.type.name),
        n ∈ Schema.namedBy t) →
      fields.mapM c.outputMember = fields.mapM (c.inSchema schema').outputMember ∧
        c.argumentBags t.name fields = (c.inSchema schema').argumentBags t.name fields := by
    intro fields hnamed
    constructor
    · exact mapM_congr fun f hf =>
        outputMember_inSchema hlookup (h _ (hnamed f hf _ List.mem_cons_self))
    · refine argumentBags_inSchema fun f hf i hi => h _ (hnamed f hf _ ?_)
      exact List.mem_cons_of_mem _ (List.mem_map_of_mem hi)
  unfold declarationsFor
  unfold Schema.namedBy at h hfields
  -- The names in each part of a body are among those of the whole type.
  cases hbody : t.body with
  | scalar | enum _ => rfl
  | object interfaces fields | interface interfaces fields =>
    simp only [hbody] at h hfields
    obtain ⟨hmembers, hbags⟩ := hfields fields fun f hf n hn =>
      List.mem_append_right _ (List.mem_flatMap.mpr ⟨f, hf, hn⟩)
    simp only [hmembers, hbags]
    rfl
  | union members =>
    simp only [hbody] at h
    simp only [mapM_congr h]
    rfl
  | input flag fields =>
    simp only [hbody, List.forall_mem_map] at h
    simp only [mapM_congr fun i hi => variant_inSchema (h i hi),
      mapM_congr fun i hi => inputMember_inSchema (h i hi)]
    rfl

end Scope

/-! ## Blocks of types -/

namespace RunParts

variable {schema schema' : Schema} {s : Settings}

/-- The blocks of a type. -/
def blocks (p : RunParts schema s) (t : NamedType) : List String :=
  ((p.scope.declarationsFor t).toOption.getD []).map Declaration.render

/-- The blocks that come before those of the types: of scalars and of mapped directives. -/
def leading (p : RunParts schema s) : List String :=
  (p.scope.scalarsDeclaration p.scalars :: p.mappings).map Declaration.render

theorem content_eq (p : RunParts schema s) {out : Output} (h : p.emission.output = .ok out) :
    out.content = p.leading ++ schema.userTypes.flatMap p.blocks ++ p.ledger.reexportLines := by
  obtain ⟨_, _, _, hcontent⟩ := output_parts h
  have htypes : p.ofTypes.flatten.map Declaration.render = schema.userTypes.flatMap p.blocks := by
    have hall : List.Forall₂ (fun t ds => p.scope.declarationsFor t = .ok ds) schema.userTypes
        p.ofTypes := mapM_eq_ok.mp p.declared
    generalize schema.userTypes = types at hall ⊢
    generalize p.ofTypes = ofTypes at hall ⊢
    induction hall with
    | nil => rfl
    | cons ht _ ih =>
      rw [List.flatten_cons, List.map_append, List.flatMap_cons, ih, blocks, ht]
      rfl
  rw [hcontent, ← htypes, emission, leading, List.map_append]

theorem blocks_eq (hlookup : s.implementingTypes = false) (p : RunParts schema s)
    (p' : RunParts schema' s) {t : NamedType} (h : Schema.SameKinds schema schema' t) :
    p.blocks t = p'.blocks t := by
  have hscope : p'.scope = p.scope.inSchema schema' := by
    unfold scope
    rw [mapped_eq rfl rfl p p']
    rfl
  unfold blocks
  rw [hscope, Scope.declarationsFor_inSchema hlookup fun n hn => Scope.reference_of_kind (h n hn)]

end RunParts

/-- **The blocks of a type are the same in all files in which the names that it refers to are of the
same kinds.** So they stay what they are where types change their places or unrelated types are
added; the names in them do not depend on what was named before. -/
theorem emit_local {schema schema' : Schema} {s : Settings} {out out' : Output}
    (hlookup : s.implementingTypes = false) (h : emit schema s = .ok out)
    (h' : emit schema' s = .ok out') :
    ∃ (p : RunParts schema s) (p' : RunParts schema' s),
      out.content = p.leading ++ schema.userTypes.flatMap p.blocks ++ p.ledger.reexportLines ∧
      out'.content =
        p'.leading ++ schema'.userTypes.flatMap p'.blocks ++ p'.ledger.reexportLines ∧
      (∀ t ∈ schema.userTypes, t ∈ schema'.userTypes → Schema.SameKinds schema schema' t →
        p.blocks t = p'.blocks t) ∧
      ((schema.types.map NamedType.name).Nodup → schema.types.Perm schema'.types →
        schema.userTypes.Perm schema'.userTypes ∧
          ∀ t ∈ schema.userTypes, p.blocks t = p'.blocks t) ∧
      ((schema'.types.map NamedType.name).Nodup → schema.types ⊆ schema'.types →
        ∀ t ∈ schema.userTypes,
          (∀ d ∈ schema'.types, d ∈ schema.types ∨ d.name ∉ Schema.namedBy t) →
            t ∈ schema'.userTypes ∧ p.blocks t = p'.blocks t) ∧
      ∀ requests : List NameTable.Request,
        ((requests.mapM NameTable.Request.ask).run (NameTable.ofSettings s)).1 =
          requests.map (NameTable.Request.answer s) := by
  obtain ⟨e, he, hout⟩ := emission_of_emit h
  obtain ⟨e', he', hout'⟩ := emission_of_emit h'
  obtain ⟨p, rfl⟩ := exists_parts he
  obtain ⟨p', rfl⟩ := exists_parts he'
  refine ⟨p, p', p.content_eq hout, p'.content_eq hout', ?_, ?_, ?_, ?_⟩
  · exact fun t _ _ hkinds => p.blocks_eq hlookup p' hkinds
  · intro hnames hperm
    refine ⟨hperm.filter _, fun t _ => p.blocks_eq hlookup p' ?_⟩
    have hnames' : (schema'.types.map NamedType.name).Nodup :=
      (hperm.map NamedType.name).nodup_iff.mp hnames
    exact Schema.sameKinds_of_subset hperm.subset hnames' fun d hd => Or.inl (hperm.mem_iff.mpr hd)
  · intro hnames hsub t ht hnew
    refine ⟨?_, p.blocks_eq hlookup p' (Schema.sameKinds_of_subset hsub hnames hnew)⟩
    obtain ⟨ht, huser⟩ := List.mem_filter.mp ht
    exact List.mem_filter.mpr ⟨hsub ht, huser⟩
  · exact NameTable.ask_ofSettings s

/-- An object and an input of a price list, the units of which are to change. -/
def pricesText : String :=
  "type Item\x7bid:ID price(unit:Unit):Money next:Item\x7d enum Unit\x7bKG\x7d " ++
  "input Query\x7bname:String\x7d scalar Money"

/-- Prices in other units, before which further types stand. -/
def otherPricesText : String :=
  "scalar Money enum Unit\x7bLB OZ\x7d interface Node\x7bid:ID\x7d " ++
  "type Item\x7bid:ID price(unit:Unit):Money next:Item\x7d"

def isItem (t : NamedType) : Bool := t.name = "Item"

theorem emit_local_prices : ∃ schema schema' s out out' t,
    Schema.ofText pricesText = .ok schema ∧ Schema.ofText otherPricesText = .ok schema' ∧
    Settings.ofOptions Options.defaults = .ok s ∧ s.implementingTypes = false ∧
    emit schema s = .ok out ∧ emit schema' s = .ok out' ∧ t.name = "Item" ∧
    t ∈ schema.userTypes ∧ t ∈ schema'.userTypes ∧ Schema.SameKinds schema schema' t ∧
    ∃ (p : RunParts schema s) (p' : RunParts schema' s),
      out.content = p.leading ++ schema.userTypes.flatMap p.blocks ++ p.ledger.reexportLines ∧
      out'.content =
        p'.leading ++ schema'.userTypes.flatMap p'.blocks ++ p'.ledger.reexportLines ∧
      p.blocks t = p'.blocks t := by
  have hshared : (Schema.ofText pricesText).toOption.map (fun s => s.userTypes.find? isItem) =
      (Schema.ofText otherPricesText).toOption.map fun s => s.userTypes.find? isItem := by
    decide +kernel
  have hruns : runs pricesText Options.defaults (fun schema s => !s.implementingTypes &&
      (Schema.ofText otherPricesText).toOption.any fun schema' =>
        (emit schema' s).toOption.isSome && (schema.userTypes.find? isItem).any fun t =>
          decide (Schema.SameKinds schema schema' t)) = true := by
    decide +kernel
  obtain ⟨schema, s, out, hschema, hsettings, hemit, hruns⟩ := exists_of_runs hruns
  obtain ⟨hlookup, hruns⟩ := Bool.and_eq_true_iff.mp hruns
  obtain ⟨schema', hschema', hruns⟩ := (Option.any_eq_true ..).mp hruns
  obtain ⟨hemit', hruns⟩ := Bool.and_eq_true_iff.mp hruns
  obtain ⟨out', hemit'⟩ := Option.isSome_iff_exists.mp hemit'
  obtain ⟨t, hfind, hkinds⟩ := (Option.any_eq_true ..).mp hruns
  rw [toOption_eq_some] at hschema' hemit'
  rw [hschema, hschema'] at hshared
  have hfind' : schema'.userTypes.find? isItem = some t := (Option.some.inj hshared).symm.trans hfind
  have hname : isItem t = true := List.find?_some hfind
  have ht := List.mem_of_find?_eq_some hfind
  have ht' := List.mem_of_find?_eq_some hfind'
  have hlookup : s.implementingTypes = false := by simpa using hlookup
  obtain ⟨p, p', hcontent, hcontent', hblocks, _⟩ := emit_local hlookup hemit hemit'
  exact ⟨schema, schema', s, out, out', t, hschema, hschema', hsettings, hlookup, hemit, hemit',
    of_decide_eq_true hname, ht, ht', of_decide_eq_true hkinds, p, p', hcontent,
    hcontent', hblocks t ht ht' (of_decide_eq_true hkinds)⟩

end Code

end SchemaTypings
