import SchemaTypings.Proofs.Layout
import SchemaTypings.Proofs.Mentions
import SchemaTypings.Proofs.Scalars
import SchemaTypings.Proofs.Wrappers

/-!
# What the written references refer to

Each reference of a declaration is the one for a mention of its type. What is written for it is a
row of the run or the identifier of a declaration of the run.
-/

open SchemaTypings.Outcome

namespace SchemaTypings.Code

/-! ## What a declaration writes -/

def Attribute.written (a : Attribute) : Option String × Reference := (some a.name, a.type.type.core)

namespace DeclarationBody

/-- The references of a declaration, those of a field or an argument with its name. -/
def written : DeclarationBody → List (Option String × Reference)
  | scalars _ | directiveMappings _ | enum .. => []
  | object _ bases _ fields | interface _ bases fields =>
    bases.map (fun b => (none, .declared b)) ++ fields.map Attribute.written
  | input _ fields | arguments _ fields => fields.map Attribute.written
  | oneOf _ variants =>
    variants.flatten.filterMap fun f => f.type.map fun t => (some f.name, t.core)
  | union members _ => members.map fun r => (none, r)

end DeclarationBody

/-! ## What stands in the text -/

/-- A text has a reference, and the name of the field or argument that it belongs to. -/
structure Shown (w : Option String × Reference) (text : String) : Prop where
  name : ∀ n ∈ w.1, n.toList <:+: text.toList
  reference : w.2.render.toList <:+: text.toList

theorem Shown.mono {w : Option String × Reference} {text line : String} (h : Shown w text)
    (hline : text.toList <:+: line.toList) : Shown w line :=
  ⟨fun n hn => (h.name n hn).trans hline, h.reference.trans hline⟩

theorem infix_wrapText (wrappers : List Wrapper) (text : String) :
    text.toList <:+: (wrapText wrappers text).toList := by
  induction wrappers with
  | nil => exact List.infix_refl _
  | cons w rest ih =>
    have hinner : (wrapText rest text).toList <:+: (wrapText (w :: rest) text).toList := by
      change _ <:+: (w.name ++ "<" ++ wrapText rest text ++ ">").toList
      rw [String.toList_append, String.toList_append]
      exact List.infix_append ..
    exact ih.trans hinner

theorem shown_attributeText (name : String) (type : TypeExpr Reference)
    (isOptional isReadonly : Bool) :
    Shown (some name, type.core)
      (attributeText name (type.render Reference.render) isOptional isReadonly) := by
  have hcore := infix_wrapText type.wrappers type.core.render
  unfold attributeText
  simp only [String.append_assoc]
  constructor
  · rintro n ⟨⟩
    simp only [String.toList_append]
    exact List.infix_append' ..
  · refine hcore.trans ?_
    simp only [String.toList_append, ← List.append_assoc]
    exact List.infix_append ..

theorem Attribute.shown (a : Attribute) : Shown a.written a.text := by
  refine (shown_attributeText a.name a.type.type a.type.isOptional a.type.isReadonly).mono ?_
  unfold text
  rw [toList_withComment]
  exact (List.suffix_append ..).isInfix

theorem shown_variantText {isReadonly : Bool} {v : Variant} {f : VariantField} (hf : f ∈ v)
    {type : TypeExpr Reference} (htype : f.type = some type) :
    Shown (some f.name, type.core) (variantText isReadonly v) := by
  have hfield : Shown (some f.name, type.core) (f.text isReadonly) := by
    rw [VariantField.text, htype]
    exact shown_attributeText ..
  have hpiece := Text.infix_join (" ".toList) (List.mem_map_of_mem (f := String.toList)
    (List.mem_map_of_mem (f := VariantField.text isReadonly) hf))
  rw [Text.join, ← String.toList_intercalate] at hpiece
  refine hfield.mono (hpiece.trans ?_)
  unfold variantText
  rw [String.toList_append, String.toList_append]
  exact List.infix_append ..

theorem exists_variantLine (isReadonly : Bool) {variants : List Variant} {v : Variant}
    (hv : v ∈ variants) :
    ∃ line ∈ variantLines isReadonly variants,
      (variantText isReadonly v).toList <:+: line.toList := by
  cases variants with
  | nil => cases hv
  | cons first rest =>
    rcases List.mem_cons.mp hv with rfl | hv
    · exact ⟨_, List.mem_cons_self, List.infix_refl _⟩
    · refine ⟨_, List.mem_cons_of_mem _ (List.mem_map_of_mem hv), ?_⟩
      rw [String.toList_append]
      exact (List.suffix_append ..).isInfix

/-- What a declaration writes stands in one of its members, or it is one of its bases. -/
theorem DeclarationBody.shown {body : DeclarationBody} {w : Option String × Reference}
    (h : w ∈ body.written) : (∃ m ∈ body.members, Shown w m) ∨ w.2.render ∈ body.bases := by
  have hattribute : ∀ fields : List Attribute, w ∈ fields.map Attribute.written →
      ∃ m ∈ fields.map Attribute.text, Shown w m := by
    intro fields hw
    obtain ⟨a, ha, rfl⟩ := List.mem_map.mp hw
    exact ⟨a.text, List.mem_map_of_mem ha, a.shown⟩
  cases body with
  | scalars | directiveMappings | enum => cases h
  | object keyword bases typename fields =>
    rcases List.mem_append.mp h with h | h
    · obtain ⟨b, hb, rfl⟩ := List.mem_map.mp h
      exact Or.inr hb
    · obtain ⟨m, hm, hshown⟩ := hattribute fields h
      exact Or.inl ⟨m, List.mem_append_right _ hm, hshown⟩
  | interface keyword bases fields =>
    rcases List.mem_append.mp h with h | h
    · obtain ⟨b, hb, rfl⟩ := List.mem_map.mp h
      exact Or.inr hb
    · exact Or.inl (hattribute fields h)
  | input keyword fields | arguments keyword fields => exact Or.inl (hattribute fields h)
  | oneOf isReadonly variants =>
    obtain ⟨f, hf, hw⟩ := List.mem_filterMap.mp h
    obtain ⟨v, hv, hf⟩ := List.mem_flatten.mp hf
    obtain ⟨type, htype, rfl⟩ := Option.map_eq_some_iff.mp hw
    obtain ⟨line, hline, hinfix⟩ := exists_variantLine isReadonly hv
    exact Or.inl ⟨line, hline, (shown_variantText hf htype).mono hinfix⟩
  | union members openReadonly =>
    obtain ⟨r, hr, rfl⟩ := List.mem_map.mp h
    exact Or.inl ⟨r.render, List.mem_append_left _ (List.mem_map_of_mem hr), nofun,
      List.infix_refl _⟩

/-! ## Names of a reference -/

def Reference.names : Reference → List String
  | scalar name => [entry scalarsName name]
  | directive name => [entry directiveMappingsName name]
  | declared identifier | enum identifier _ _ => [identifier]
  | anyOf [] => ["never"]
  | anyOf identifiers => identifiers

/-- The text equal to one of an enum's values. -/
def textOf (identifier : String) : String := "\x60$\x7b" ++ identifier ++ "\x7d\x60"

/-- A reference is written as alternatives: its names, and for an enum the values added later or a
text equal to one of its values. -/
theorem Reference.render_eq (r : Reference) : ∃ alternatives,
    r.render = " | ".intercalate alternatives ∧ r.names ⊆ alternatives ∧
      ∀ a ∈ alternatives, a ∈ r.names ∨ a = futureValue ∨ ∃ n ∈ r.names, a = textOf n := by
  cases r with
  | scalar name | directive name | declared identifier =>
    exact ⟨_, (String.intercalate_singleton ..).symm, List.Subset.refl _, fun a ha => Or.inl ha⟩
  | anyOf identifiers =>
    cases identifiers with
    -- A choice among no types is written as a type that has no values.
    | nil => exact ⟨["never"], rfl, List.Subset.refl _, fun a ha => Or.inl ha⟩
    | cons i is => exact ⟨i :: is, rfl, List.Subset.refl _, fun a ha => Or.inl ha⟩
  | enum identifier futureProof stringTypes =>
    refine ⟨[identifier] ++ (if futureProof then [futureValue] else []) ++
      (if stringTypes then [textOf identifier] else []), rfl, by simp [names], ?_⟩
    intro a ha
    simp only [List.mem_append, List.mem_singleton] at ha
    rcases ha with (rfl | ha) | ha
    · exact Or.inl (by simp [names])
    · right
      left
      split at ha <;> simp_all
    · right
      right
      refine ⟨identifier, by simp [names], ?_⟩
      split at ha <;> simp_all [textOf]

theorem Reference.exists_name (r : Reference) : ∃ n, n ∈ r.names := by
  cases r with
  | anyOf identifiers => cases identifiers <;> simp [names]
  | scalar _ | directive _ | declared _ | enum _ _ _ => simp [names]

/-! ## What a run declares -/

namespace Emission

def HasScalar (e : Emission) (name : String) : Prop :=
  ∃ d ∈ e.declarations, ∃ rows, d.identifier = scalarsName ∧ d.body = .scalars rows ∧
    ∃ r ∈ rows, r.name = name

def HasMapping (e : Emission) (name : String) : Prop :=
  ∃ d ∈ e.declarations, ∃ rows, d.identifier = directiveMappingsName ∧
    d.body = .directiveMappings rows ∧ ∃ r ∈ rows, r.name = name

/-- The first declaration that a type gives is in the run and has this identifier. -/
def Declares (e : Emission) (c : Scope) (type identifier : String) : Prop :=
  ∃ t ∈ c.schema.userTypes, t.name = type ∧
    ∃ d rest, c.declarationsFor t = .ok (d :: rest) ∧ d ∈ e.declarations ∧
      d.identifier = identifier

/-- What a name may be that is written where a type is mentioned. -/
inductive Binds (e : Emission) (c : Scope) : Mention → String → Prop
  | scalar {m} (hrow : e.HasScalar m.type) : Binds e c m (entry scalarsName m.type)
  | directive {member type directives d} (hd : d ∈ directives) (hrow : e.HasMapping d) :
      Binds e c (.input member type directives) (entry directiveMappingsName d)
  | declared {m identifier} (h : e.Declares c m.type identifier) : Binds e c m identifier
  | external {m t mapper} (hfound : c.schema.find? m.type = some t) (henum : isEnum t = true)
      (h : c.settings.externalEnum? m.type = .ok (some mapper)) : Binds e c m m.type
  | implementing {member type t object identifier} (hoption : c.settings.implementingTypes = true)
      (hfound : c.schema.find? type = some t) (hobject : object ∈ c.schema.possibleTypes t)
      (h : e.Declares c object identifier) :
      Binds e c (.output member type) identifier
  | never {member type t} (hoption : c.settings.implementingTypes = true)
      (hfound : c.schema.find? type = some t) (habstract : Schema.isAbstract t = true)
      (hnone : c.schema.possibleTypes t = []) : Binds e c (.output member type) "never"

end Emission

namespace RunParts

variable {schema : Schema} {s : Settings}

/-! ## Each type is declared -/

theorem hasScalar (p : RunParts schema s) {t : NamedType} (ht : t ∈ schema.userTypes)
    (hscalar : t.isScalar = true) : p.emission.HasScalar t.name := by
  have hrow := ScalarTable.has_row p.scalars_ok (ScalarTable.mem_namesToResolve ht hscalar)
  obtain ⟨r, hr, hname⟩ := ScalarTable.mem_list_iff.mpr hrow
  refine ⟨p.scope.scalarsDeclaration p.scalars, by simp [emission], _, rfl, rfl, ?_⟩
  exact ⟨_, List.mem_map.mpr ⟨r, hr, rfl⟩, hname⟩

theorem hasMapping (p : RunParts schema s) {name : String}
    (h : Table.has p.mapped name = true) : p.emission.HasMapping name := by
  obtain ⟨row, hrow, hname⟩ := List.mem_map.mp ((Table.mem_keys_iff _ _).mpr h)
  have hd := p.mappings_declared (List.ne_nil_of_mem hrow)
  exact ⟨_, hd, _, rfl, rfl, _, List.mem_map.mpr ⟨row, hrow, rfl⟩, hname⟩

theorem declares_type (p : RunParts schema s) {t : NamedType} (ht : t ∈ schema.userTypes)
    (hscalar : t.isScalar = false) (henum : Emission.isEnum t = false) :
    p.emission.Declares p.scope t.name (s.typeName t.name) := by
  obtain ⟨ds, hds, hsub⟩ := p.declarationsFor_ok ht
  refine ⟨t, ht, rfl, ?_⟩
  have hdeclared := Scope.declared_of_ok hds
  cases hdeclared with
  | scalar hbody => simp [NamedType.isScalar, hbody] at hscalar
  | externalEnum hbody _ | localEnum hbody _ _ => simp [Emission.isEnum, hbody] at henum
  | object | interface | union | oneOf | input =>
    exact ⟨_, _, hds, hsub List.mem_cons_self, rfl⟩

theorem declares_composite (p : RunParts schema s) {t : NamedType} (ht : t ∈ schema.userTypes)
    (hbody : Schema.isObject t = true ∨ Schema.isInterface t = true) :
    p.emission.Declares p.scope t.name (s.typeName t.name) := by
  unfold Schema.isObject Schema.isInterface at hbody
  refine p.declares_type ht ?_ ?_
  · cases hb : t.body <;> simp_all [NamedType.isScalar]
  · cases hb : t.body <;> simp_all [Emission.isEnum]

theorem declares_enum (p : RunParts schema s) {t : NamedType} (ht : t ∈ schema.userTypes)
    (henum : Emission.isEnum t = true) (hlocal : s.externalEnum? t.name = .ok none) :
    p.emission.Declares p.scope t.name (s.enumName t.name) := by
  obtain ⟨ds, hds, hsub⟩ := p.declarationsFor_ok ht
  refine ⟨t, ht, rfl, ?_⟩
  have hdeclared := Scope.declared_of_ok hds
  cases hdeclared with
  | localEnum => exact ⟨_, _, hds, hsub List.mem_cons_self, rfl⟩
  | externalEnum hbody hexternal =>
    have : s.externalEnum? t.name = .ok (some _) := hexternal
    rw [hlocal] at this
    simp at this
  | scalar hbody | object hbody | interface hbody | union hbody | oneOf hbody | input hbody =>
    simp [Emission.isEnum, hbody] at henum

/-! ## Each reference is bound -/

def Bound (p : RunParts schema s) (m : Mention) (r : Reference) : Prop :=
  ∀ n ∈ r.names, p.emission.Binds p.scope m n

theorem names_enumReference (identifier : String) :
    (s.enumReference identifier).names = [identifier] := by
  unfold Settings.enumReference
  split <;> rfl

theorem bound_reference (p : RunParts schema s) {m : Mention} {t : NamedType}
    (ht : t ∈ schema.userTypes) (hname : t.name = m.type) (hfound : schema.find? m.type = some t)
    {r : Reference} (hr : p.scope.reference m.type = .ok r) : p.Bound m r := by
  unfold Scope.reference at hr
  rw [show p.scope.schema.find? m.type = some t from hfound] at hr
  intro n hn
  cases hb : t.body with
  | scalar =>
    simp only [Option.map_some, hb, Except.ok.injEq] at hr
    subst hr
    rw [List.mem_singleton.mp hn]
    exact .scalar (hname ▸ p.hasScalar ht (by simp [NamedType.isScalar, hb]))
  | enum values =>
    have henum : Emission.isEnum t = true := by simp [Emission.isEnum, hb]
    simp only [Option.map_some, hb] at hr
    obtain ⟨identifier, hid, hr⟩ := map_eq_ok.mp (mapError_eq_ok.mp hr)
    obtain ⟨external, hexternal, hid⟩ := bind_eq_ok.mp hid
    rw [pure_eq_ok] at hid
    rw [← hr, names_enumReference] at hn
    rw [List.mem_singleton.mp hn, ← hid]
    cases external with
    -- An external enum goes by what the import binds, any other by its declaration.
    | some mapper => exact .external hfound henum hexternal
    | none =>
      refine .declared ?_
      rw [← hname] at hexternal ⊢
      exact p.declares_enum ht henum hexternal
  | object _ _ | interface _ _ | union _ | input _ _ =>
    simp only [Option.map_some, hb, Except.ok.injEq] at hr
    subst hr
    rw [List.mem_singleton.mp hn]
    refine .declared (?_ : p.emission.Declares p.scope m.type (s.typeName m.type))
    rw [← hname]
    exact p.declares_type ht (by simp [NamedType.isScalar, hb]) (by simp [Emission.isEnum, hb])

section

variable {text : String} (hbuilt : Schema.ofText text = .ok schema) (hs : schema.Sensible)

include hbuilt hs

theorem bound_mention (p : RunParts schema s) {t : NamedType} (ht : t ∈ schema.types) {m : Mention}
    (hm : m ∈ t.mentions) {r : Reference} (hr : p.scope.reference m.type = .ok r) :
    p.Bound m r := by
  obtain ⟨u, hu, hname, hfound⟩ := hs.found hbuilt ht (type_mem_namedBy hm)
  exact p.bound_reference (hs.mem_userTypes hu) hname hfound hr

theorem declares_possible (p : RunParts schema s) {t : NamedType} (ht : t ∈ schema.types)
    {object : String} (hobject : object ∈ schema.possibleTypes t) :
    p.emission.Declares p.scope object (s.typeName object) := by
  have hobj : schema.NamesObject object := by
    unfold Schema.possibleTypes at hobject
    cases hb : t.body with
    | union members =>
      simp only [hb] at hobject
      have hnamed : object ∈ Schema.namedBy t := by simpa [Schema.namedBy, hb] using hobject
      obtain ⟨u, hu, hname, hfound⟩ := hs.found hbuilt ht hnamed
      have hobj := hs.members t ht object (by simpa [Schema.unionMembers, hb] using hobject)
      rw [hfound, Option.any_some] at hobj
      exact ⟨u, hu, hname, hobj⟩
    | interface interfaces fields =>
      simp only [hb] at hobject
      exact Schema.namesObject_implementing hobject
    | scalar | object _ _ | enum _ | input _ _ => simp [hb] at hobject
  obtain ⟨u, hu, rfl, hobj⟩ := hobj
  exact p.declares_composite (hs.mem_userTypes hu) (Or.inl hobj)

theorem bound_anyOf (p : RunParts schema s) {member type : String}
    (hoption : s.implementingTypes = true) {t : NamedType} (ht : t ∈ schema.types)
    (hfound : schema.find? type = some t) (habstract : Schema.isAbstract t = true) :
    p.Bound (.output member type) (.anyOf ((schema.possibleTypes t).map s.typeName)) := by
  intro n hn
  cases hp : schema.possibleTypes t with
  | nil =>
    rw [hp] at hn
    rw [List.mem_singleton.mp hn]
    exact .never hoption hfound habstract hp
  | cons first rest =>
    rw [hp] at hn
    obtain ⟨object, hobject, rfl⟩ := List.mem_map.mp hn
    rw [← hp] at hobject
    exact .implementing hoption hfound hobject (p.declares_possible hbuilt hs ht hobject)

theorem bound_output (p : RunParts schema s) {t : NamedType} (ht : t ∈ schema.types)
    {member type : String} (hm : .output member type ∈ t.mentions) {r : Reference}
    (hr : p.scope.outputReference type = .ok r) : p.Bound (.output member type) r := by
  obtain ⟨u, hu, hname, hfound⟩ := hs.found hbuilt ht (type_mem_namedBy hm)
  unfold Scope.outputReference at hr
  rw [show p.scope.schema.find? type = some u from hfound] at hr
  cases hoption : s.implementingTypes with
  | false =>
    rw [show p.scope.settings.implementingTypes = false from hoption] at hr
    exact p.bound_mention hbuilt hs ht hm hr
  | true =>
    rw [show p.scope.settings.implementingTypes = true from hoption] at hr
    -- With the lookup an abstract type is a choice among objects.
    cases hb : u.body with
    | interface _ _ | union _ =>
      simp only [hb, Except.ok.injEq] at hr
      rw [← hr]
      exact p.bound_anyOf hbuilt hs hoption hu hfound (by simp [Schema.isAbstract, hb])
    | scalar | object _ _ | enum _ | input _ _ =>
      simp only [hb] at hr
      exact p.bound_mention hbuilt hs ht hm hr

/-! ## Each member -/

theorem bound_outputMember (p : RunParts schema s) {t : NamedType} (ht : t ∈ schema.types)
    {f : Field} (hm : .output f.name f.type.name ∈ t.mentions) {a : Attribute}
    (ha : p.scope.outputMember f = .ok a) :
    a.written.1 = some f.name ∧ p.Bound (.output f.name f.type.name) a.written.2 := by
  obtain ⟨core, hcore, _, hname, htype⟩ := Scope.outputMember_ok ha
  rw [Attribute.written, hname, htype]
  exact ⟨rfl, p.bound_output hbuilt hs ht hm hcore⟩

omit hbuilt hs in
theorem bound_override (p : RunParts schema s) {i : InputValue} {o : Reference}
    (ho : p.scope.override? i.directives = some o) : p.Bound i.mention o := by
  obtain ⟨d, hd, rfl⟩ := Option.map_eq_some_iff.mp ho
  have hmem := List.mem_of_getLast? hd
  rw [List.mem_filter] at hmem
  intro n hn
  rw [List.mem_singleton.mp hn]
  exact .directive hmem.1 (p.hasMapping hmem.2)

theorem bound_inputMember (p : RunParts schema s) {t : NamedType} (ht : t ∈ schema.types)
    {i : InputValue} (hm : i.mention ∈ t.mentions) {a : Attribute}
    (ha : p.scope.inputMember i = .ok a) :
    a.written.1 = some i.name ∧ p.Bound i.mention a.written.2 := by
  obtain ⟨_, hname, ⟨o, ho, htype⟩ | ⟨_, core, hcore, htype⟩⟩ := Scope.inputMember_ok ha
  · rw [Attribute.written, hname, htype]
    exact ⟨rfl, p.bound_override ho⟩
  · rw [Attribute.written, hname, htype]
    exact ⟨rfl, p.bound_mention hbuilt hs ht hm hcore⟩

theorem bound_requiredType (p : RunParts schema s) {t : NamedType} (ht : t ∈ schema.types)
    {i : InputValue} (hm : i.mention ∈ t.mentions) {type : TypeExpr Reference}
    (h : p.scope.requiredType i = .ok type) : p.Bound i.mention type.core := by
  rcases Scope.requiredType_ok h with ⟨o, ho, rfl⟩ | ⟨_, core, hcore, rfl⟩
  · exact p.bound_override ho
  · exact p.bound_mention hbuilt hs ht hm hcore

theorem bound_variant (p : RunParts schema s) {t : NamedType} (ht : t ∈ schema.types)
    {input : String} {fields : List InputValue} {given : InputValue}
    (hm : given.mention ∈ t.mentions) {v : Variant}
    (hv : p.scope.variant input fields given = .ok v) {f : VariantField} (hf : f ∈ v)
    {type : TypeExpr Reference} (htype : f.type = some type) :
    f.name = given.name ∧ p.Bound given.mention type.core := by
  obtain ⟨_, required, hrequired, rfl⟩ := Scope.variant_ok hv
  obtain ⟨g, _, rfl⟩ := List.mem_map.mp hf
  simp only at htype ⊢
  split at htype
  · next hname =>
    rw [Option.some.injEq] at htype
    exact ⟨hname, htype ▸ p.bound_requiredType hbuilt hs ht hm hrequired⟩
  · simp at htype

/-! ## Each declaration -/

/-- A reference is the one for a mention of the type, and its names are bound there. -/
def Grounded (p : RunParts schema s) (t : NamedType) (w : Option String × Reference) : Prop :=
  ∃ m ∈ t.mentions, m.member = w.1 ∧ p.Bound m w.2

theorem grounded_base (p : RunParts schema s) {t : NamedType} (ht : t ∈ schema.types) {i : String}
    (hm : .listed i ∈ t.mentions) (hi : i ∈ t.interfaces) :
    p.Grounded t (none, .declared (s.typeName i)) := by
  obtain ⟨u, hu, hname, hfound⟩ := hs.found hbuilt ht (type_mem_namedBy hm)
  have hinterface := hs.interfaces t ht i hi
  rw [show schema.find? i = some u from hfound, Option.any_some] at hinterface
  refine ⟨_, hm, rfl, ?_⟩
  intro n hn
  rw [List.mem_singleton.mp hn]
  refine .declared (?_ : p.emission.Declares p.scope i (s.typeName i))
  rw [← show u.name = i from hname]
  exact p.declares_composite (hs.mem_userTypes hu) (Or.inr hinterface)

theorem grounded_bag (p : RunParts schema s) {t : NamedType} (ht : t ∈ schema.types)
    {owner : String} {fields : List Field}
    (hm : ∀ f ∈ fields, ∀ a ∈ f.arguments, a.mention ∈ t.mentions)
    {bags : List Declaration} (hbags : p.scope.argumentBags owner fields = .ok bags)
    {d : Declaration} (hd : d ∈ bags) {w : Option String × Reference} (hw : w ∈ d.body.written) :
    p.Grounded t w := by
  obtain ⟨f, hf, hbag⟩ := exists_of_mem_mapM hbags hd
  obtain ⟨members, hmembers, hbag⟩ := bind_eq_ok.mp hbag
  rw [pure_eq_ok] at hbag
  rw [← hbag] at hw
  obtain ⟨a, ha, rfl⟩ := List.mem_map.mp hw
  obtain ⟨i, hi, hia⟩ := exists_of_mem_mapM hmembers ha
  have hmention := hm f (List.mem_filter.mp hf).1 i hi
  obtain ⟨hname, hbound⟩ := p.bound_inputMember hbuilt hs ht hmention hia
  exact ⟨_, hmention, hname.symm, hbound⟩

theorem grounded_fields (p : RunParts schema s) {t : NamedType} (ht : t ∈ schema.types)
    {interfaces : List String} {fields : List Field}
    (hbody : t.body = .object interfaces fields ∨ t.body = .interface interfaces fields)
    {members : List Attribute} (hmembers : fields.mapM p.scope.outputMember = .ok members)
    {bags : List Declaration}
    (hbags : p.scope.argumentBags t.name fields = .ok bags) {d : Declaration}
    {w : Option String × Reference}
    (hw : w ∈ (interfaces.map s.typeName).map (fun b => (none, .declared b)) ++
        members.map Attribute.written ∨ (d ∈ bags ∧ w ∈ d.body.written)) : p.Grounded t w := by
  have hm : t.mentions = interfaces.map .listed ++ fields.flatMap fun f =>
      .output f.name f.type.name :: f.arguments.map InputValue.mention := by
    rcases hbody with h | h <;> rw [NamedType.mentions, h]
  have hinterfaces : t.interfaces = interfaces := by
    rcases hbody with h | h <;> rw [NamedType.interfaces, h]
  have hfield : ∀ f ∈ fields, .output f.name f.type.name ∈ t.mentions := by
    intro f hf
    rw [hm]
    exact List.mem_append_right _ (List.mem_flatMap.mpr ⟨f, hf, List.mem_cons_self⟩)
  have hargument : ∀ f ∈ fields, ∀ a ∈ f.arguments, a.mention ∈ t.mentions := by
    intro f hf a ha
    rw [hm]
    refine List.mem_append_right _ (List.mem_flatMap.mpr ⟨f, hf, ?_⟩)
    exact List.mem_cons_of_mem _ (List.mem_map.mpr ⟨a, ha, rfl⟩)
  rcases hw with hw | ⟨hd, hw⟩
  · rcases List.mem_append.mp hw with hw | hw
    · rw [List.map_map] at hw
      obtain ⟨i, hi, rfl⟩ := List.mem_map.mp hw
      refine p.grounded_base hbuilt hs ht ?_ (hinterfaces ▸ hi)
      rw [hm]
      exact List.mem_append_left _ (List.mem_map.mpr ⟨i, hi, rfl⟩)
    · obtain ⟨a, ha, rfl⟩ := List.mem_map.mp hw
      obtain ⟨f, hf, hfa⟩ := exists_of_mem_mapM hmembers ha
      obtain ⟨hname, hbound⟩ := p.bound_outputMember hbuilt hs ht (hfield f hf) hfa
      exact ⟨_, hfield f hf, hname.symm, hbound⟩
  · exact p.grounded_bag hbuilt hs ht hargument hbags hd hw

theorem grounded_declared (p : RunParts schema s) {t : NamedType} (ht : t ∈ schema.types)
    {ds : List Declaration} (hds : p.scope.Declared t ds) {d : Declaration} (hd : d ∈ ds)
    {w : Option String × Reference} (hw : w ∈ d.body.written) : p.Grounded t w := by
  cases hds with
  | scalar | externalEnum => simp at hd
  | localEnum =>
    rw [List.mem_singleton.mp hd] at hw
    simp [Scope.declare, DeclarationBody.written] at hw
  | object hbody hmembers hbags =>
    refine p.grounded_fields hbuilt hs ht (Or.inl hbody) hmembers hbags (?_ : _ ∨ (d ∈ _ ∧ _))
    rcases List.mem_cons.mp hd with rfl | hd
    · exact Or.inl hw
    · exact Or.inr ⟨hd, hw⟩
  | interface hbody hmembers hbags =>
    refine p.grounded_fields hbuilt hs ht (Or.inr hbody) hmembers hbags (?_ : _ ∨ (d ∈ _ ∧ _))
    rcases List.mem_cons.mp hd with rfl | hd
    · exact Or.inl hw
    · exact Or.inr ⟨hd, hw⟩
  | union hbody hreferences =>
    rw [List.mem_singleton.mp hd] at hw
    obtain ⟨r, hr, rfl⟩ := List.mem_map.mp hw
    obtain ⟨i, hi, hir⟩ := exists_of_mem_mapM hreferences hr
    have hm : .listed i ∈ t.mentions := by simpa [NamedType.mentions, hbody] using hi
    exact ⟨_, hm, rfl, p.bound_mention hbuilt hs ht hm hir⟩
  | oneOf hbody hone hvariants =>
    rw [List.mem_singleton.mp hd] at hw
    obtain ⟨f, hf, hw⟩ := List.mem_filterMap.mp hw
    obtain ⟨v, hv, hf⟩ := List.mem_flatten.mp hf
    obtain ⟨type, htype, rfl⟩ := Option.map_eq_some_iff.mp hw
    obtain ⟨given, hgiven, hgv⟩ := exists_of_mem_mapM hvariants hv
    have hm : given.mention ∈ t.mentions := by
      rw [NamedType.mentions, hbody]
      exact List.mem_map.mpr ⟨given, hgiven, rfl⟩
    obtain ⟨hname, hbound⟩ := p.bound_variant hbuilt hs ht hm hgv hf htype
    exact ⟨_, hm, congrArg some hname.symm, hbound⟩
  | input hbody hone hmembers =>
    rw [List.mem_singleton.mp hd] at hw
    obtain ⟨a, ha, rfl⟩ := List.mem_map.mp hw
    obtain ⟨i, hi, hia⟩ := exists_of_mem_mapM hmembers ha
    have hm : i.mention ∈ t.mentions := by
      rw [NamedType.mentions, hbody]
      exact List.mem_map.mpr ⟨i, hi, rfl⟩
    obtain ⟨hname, hbound⟩ := p.bound_inputMember hbuilt hs ht hm hia
    exact ⟨_, hm, hname.symm, hbound⟩

end

end RunParts

/-! ## The whole output -/

/-- Alternatives are written for a mention. One of them is bound, and so are the others that are not
what an enum may hold besides its values. -/
def Emission.Writes (e : Emission) (c : Scope) (m : Mention) (text : String) : Prop :=
  ∃ alternatives, text = " | ".intercalate alternatives ∧ (∃ a ∈ alternatives, e.Binds c m a) ∧
    ∀ a ∈ alternatives, e.Binds c m a ∨ a = futureValue ∨ ∃ n, e.Binds c m n ∧ a = textOf n

theorem RunParts.writes_of_bound {schema : Schema} {s : Settings} (p : RunParts schema s)
    {m : Mention} {r : Reference} (h : p.Bound m r) :
    p.emission.Writes p.scope m r.render := by
  obtain ⟨alternatives, htext, hnames, hall⟩ := r.render_eq
  refine ⟨alternatives, htext, ?_, ?_⟩
  · obtain ⟨n, hn⟩ := r.exists_name
    exact ⟨n, hnames hn, h n hn⟩
  · intro a ha
    rcases hall a ha with ha | ha | ⟨n, hn, ha⟩
    · exact Or.inl (h a ha)
    · exact Or.inr (Or.inl ha)
    · exact Or.inr (Or.inr ⟨n, h n hn, ha⟩)

/-- Each reference in a declaration of a type is the one for a mention of that type, and it is bound
in the output. Each alias that a declaration uses is declared before all blocks. -/
def ReferencesBound (schema : Schema) (s : Settings) (out : Output) : Prop :=
  ∃ p : RunParts schema s, Emission.ofSchema schema s = .ok p.emission ∧
    p.emission.output = .ok out ∧
    ∀ d ∈ p.emission.declarations,
      (∀ w ∈ d.body.written, ∃ t ∈ schema.userTypes, ∃ ds, p.scope.declarationsFor t = .ok ds ∧
        d ∈ ds ∧ ∃ m ∈ t.mentions, m.member = w.1 ∧ p.emission.Writes p.scope m w.2.render) ∧
      ∀ w ∈ d.body.wrappers, ∀ body, w.body? s = some body → aliasLine s w.name body ∈ out.prepend

/-- **No reference dangles.** -/
theorem emit_references_bound {text : String} {schema : Schema} {s : Settings} {out : Output}
    (hbuilt : Schema.ofText text = .ok schema) (hs : schema.Sensible)
    (h : emit schema s = .ok out) : ReferencesBound schema s out := by
  obtain ⟨e, he, hout⟩ := emission_of_emit h
  obtain ⟨p, rfl⟩ := exists_parts he
  obtain ⟨statements, _, hprepend, _⟩ := output_parts hout
  refine ⟨p, he, hout, ?_⟩
  intro d hd
  rcases p.mem_declarations hd with rfl | rfl | ⟨t, ht, ds, hds, hd⟩
  · exact ⟨fun _ hw => absurd hw List.not_mem_nil, fun _ hw => absurd hw List.not_mem_nil⟩
  · exact ⟨fun _ hw => absurd hw List.not_mem_nil, fun _ hw => absurd hw List.not_mem_nil⟩
  have hdeclared := Scope.declared_of_ok hds
  refine ⟨?_, ?_⟩
  · intro w hw
    obtain ⟨m, hm, hmember, hbound⟩ :=
      p.grounded_declared hbuilt hs (List.mem_filter.mp ht).1 hdeclared hd hw
    exact ⟨t, ht, ds, hds, hd, m, hm, hmember, p.writes_of_bound hbound⟩
  · intro w hw body hbody
    rw [hprepend]
    exact List.mem_append_right _ (aliasLine_mem (Scope.allowed_declared hdeclared hd hw) hbody)

/-! ## The written text -/

theorem Emission.exists_block {e : Emission} {out : Output} (hout : e.output = .ok out)
    {d : Declaration} (hd : d ∈ e.declarations) : ∃ block ∈ out.content, d.Shows block := by
  obtain ⟨_, _, _, hcontent⟩ := output_parts hout
  rw [hcontent]
  exact ⟨d.render, List.mem_append_left _ (List.mem_map_of_mem hd), d.shows_render⟩

theorem ScalarRow.suffix_text (r : ScalarRow) :
    indentChars 2 (r.name ++ ": " ++ r.type.display ++ ";").toList <:+
      indentChars 2 r.text.toList :=
  indent_suffix_withComment 2 _ _

/-- A scalar has a line of its own in the block of scalars. -/
theorem Emission.HasScalar.exists_line {e : Emission} {name : String} (h : e.HasScalar name)
    {out : Output} (hout : e.output = .ok out) :
    ∃ block ∈ out.content, ' ' :: (scalarsName.toList ++ [' ']) <:+: block.toList ∧
      ∃ type, indentChars 2 (name ++ ": " ++ type ++ ";").toList <:+: block.toList := by
  obtain ⟨d, hd, rows, hname, hbody, r, hr, rfl⟩ := h
  obtain ⟨block, hblock, hshows⟩ := e.exists_block hout hd
  have hmember : r.text ∈ d.body.members := by
    rw [hbody]
    exact List.mem_map_of_mem hr
  have hline := hshows.members r.text hmember
  rw [Declaration.placed, hbody, if_neg nofun] at hline
  exact ⟨block, hblock, hname ▸ hshows.name, r.type.display, r.suffix_text.isInfix.trans hline⟩

/-- Each reference that a run writes stands in the block of its declaration. -/
theorem emit_references_shown {schema : Schema} {s : Settings} {out : Output}
    (h : emit schema s = .ok out) :
    ∃ p : RunParts schema s, p.emission.output = .ok out ∧ ∀ d ∈ p.emission.declarations,
      ∃ block ∈ out.content, d.Shows block ∧ ∀ w ∈ d.body.written,
        (∃ m ∈ d.body.members, Shown w m) ∨ w.2.render ∈ d.body.bases := by
  obtain ⟨e, he, hout⟩ := emission_of_emit h
  obtain ⟨p, rfl⟩ := exists_parts he
  refine ⟨p, hout, fun d hd => ?_⟩
  obtain ⟨block, hblock, hshows⟩ := p.emission.exists_block hout hd
  exact ⟨block, hblock, hshows, fun _ hw => d.body.shown hw⟩

/-- A type of each kind, with an enum of another module and a mapped directive. -/
def libraryText : String :=
  "interface Node \x7b id: ID! \x7d enum Role \x7b ADMIN \x7d enum Color \x7b RED \x7d " ++
  "type User implements Node \x7b role(color: Color): Role friend: Node \x7d " ++
  "union Found = User directive @mapped on INPUT_FIELD_DEFINITION " ++
  "input One @oneOf \x7b name: String @mapped role: Role \x7d"

def libraryOptions : Options :=
  Options.ofTable [("enum_values", .object [("Color", .text "colors#Color")]),
    ("use_implementing_types", .bool true), ("wrap_field_definitions", .bool true),
    ("directive_argument_and_input_field_mappings", .object [("mapped", .text "string")])]

theorem emit_references_bound_library : ∃ schema s out, Schema.ofText libraryText = .ok schema ∧
    schema.Sensible ∧ Settings.ofOptions libraryOptions = .ok s ∧ emit schema s = .ok out ∧
    ReferencesBound schema s out := by
  have hruns : runs libraryText libraryOptions (fun schema _ => schema.Sensible) = true := by
    decide +kernel
  obtain ⟨schema, s, out, hschema, hsettings, hemit, hs⟩ := exists_of_runs hruns
  have hs := of_decide_eq_true hs
  exact ⟨schema, s, out, hschema, hs, hsettings, hemit, emit_references_bound hschema hs hemit⟩

end SchemaTypings.Code
