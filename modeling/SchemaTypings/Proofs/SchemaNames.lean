import SchemaTypings.Proofs.DocumentNames
import SchemaTypings.Proofs.TypeNames

/-!
# The names in a schema

Wherever a schema comes from, its names are spelled as names: those of its types, of their fields,
arguments and values, and of the types that they refer to.
-/

open SchemaTypings.Outcome

namespace SchemaTypings

namespace Sdl

theorem TypeBody.Proper.fields {b : TypeBody} (h : b.Proper) : ∀ d ∈ b.fields, d.Proper := by
  cases b with
  | object _ _ | interface _ _ => exact h.2
  | scalar | union _ | enum _ | input _ => exact nofun

theorem TypeBody.Proper.inputs {b : TypeBody} (h : b.Proper) : ∀ d ∈ b.inputs, d.Proper := by
  cases b with
  | input _ => exact h
  | scalar | object _ _ | interface _ _ | union _ | enum _ => exact nofun

theorem TypeBody.Proper.values {b : TypeBody} (h : b.Proper) : ∀ d ∈ b.values, Named d.name := by
  cases b with
  | enum _ => exact h
  | scalar | object _ _ | interface _ _ | union _ | input _ => exact nofun

end Sdl

open Sdl (Named)

def InputValue.Proper (i : InputValue) : Prop := Named i.name ∧ Named i.type.name

def Field.Proper (f : Field) : Prop :=
  Named f.name ∧ Named f.type.name ∧ ∀ i ∈ f.arguments, i.Proper

def TypeBody.Proper : TypeBody → Prop
  | scalar => True
  | object interfaces fields | interface interfaces fields =>
    (∀ n ∈ interfaces, Named n) ∧ ∀ f ∈ fields, f.Proper
  | union members => ∀ n ∈ members, Named n
  | enum values => ∀ vs, values = .ok vs → ∀ v ∈ vs, Named v.name
  | input _ fields => ∀ i ∈ fields, i.Proper

/-- The value of a name that is read is the name itself. -/
def EnumValue.Fresh (v : EnumValue) : Prop := Named v.name ∧ v.stored = .plain (.text v.name)

def TypeBody.Fresh : TypeBody → Prop
  | enum values => ∀ vs, values = .ok vs → ∀ v ∈ vs, v.Fresh
  | _ => True

/-- All names of a type are spelled as names are. -/
def NamedType.Proper (t : NamedType) : Prop := Named t.name ∧ t.body.Proper

namespace Schema

open Sdl (TypeDef InputDef FieldDef EnumValueDef Document Definition)

theorem proper_builtinScalar {name : String} (h : name ∈ Sdl.builtinScalars) :
    (builtinScalar name).Proper := by
  have hall : ∀ name ∈ Sdl.builtinScalars, Named name := by
    unfold Named
    decide
  exact ⟨hall name h, trivial⟩

/-! ## Texts -/

theorem proper_inputOf {d : InputDef} {i : InputValue} (h : inputOf d = .ok i) (hd : d.Proper) :
    i.Proper := by
  refine ⟨?_, ?_⟩
  · rw [inputOf_name h]
    exact hd.1
  · rw [inputOf_type h]
    exact hd.2

theorem proper_inputs {ds : List InputDef} {is : List InputValue} (h : ds.mapM inputOf = .ok is)
    (hds : ∀ d ∈ ds, d.Proper) : ∀ i ∈ is, i.Proper :=
  forall_of_mapM h fun d hd _ hi => proper_inputOf hi (hds d hd)

theorem proper_fieldOf {d : FieldDef} {f : Field} (h : fieldOf d = .ok f) (hd : d.Proper) :
    f.Proper := by
  obtain ⟨hname, htype, harguments⟩ := hd
  obtain ⟨arguments, hmade, h⟩ := bind_eq_ok.mp h
  obtain ⟨_, _, h⟩ := bind_eq_ok.mp h
  rw [pure_eq_ok] at h
  subst h
  exact ⟨hname, htype, proper_inputs hmade harguments⟩

theorem proper_fields {ds : List FieldDef} {fs : List Field} (h : ds.mapM fieldOf = .ok fs)
    (hds : ∀ d ∈ ds, d.Proper) : ∀ f ∈ fs, f.Proper :=
  forall_of_mapM h fun d hd _ hf => proper_fieldOf hf (hds d hd)

theorem fresh_values {ds : List EnumValueDef} {vs : List EnumValue}
    (h : ds.mapM enumValueOf = .ok vs) (hds : ∀ d ∈ ds, Named d.name) : ∀ v ∈ vs, v.Fresh := by
  intro v hv
  obtain ⟨d, hd, hv⟩ := exists_of_mem_mapM h hv
  obtain ⟨_, _, hv⟩ := bind_eq_ok.mp hv
  rw [pure_eq_ok] at hv
  subst hv
  exact ⟨hds d hd, rfl⟩

theorem Assembled.fresh {parts : List TypeDef} {body : TypeBody} (h : Assembled parts body)
    (hparts : ∀ p ∈ parts, p.Proper) : body.Fresh := by
  cases h with
  | enum =>
    intro vs hvs
    refine fresh_values hvs ?_
    intro d hd
    obtain ⟨p, hp, hd⟩ := List.mem_flatMap.mp hd
    exact Sdl.TypeBody.Proper.values (hparts p hp).2 d hd
  | scalar | object _ | interface _ | union | input _ => trivial

theorem Assembled.proper {parts : List TypeDef} {body : TypeBody} (h : Assembled parts body)
    (hparts : ∀ p ∈ parts, p.Proper) : body.Proper := by
  have hinterfaces : ∀ n ∈ partInterfaces parts, Named n := by
    intro n hn
    obtain ⟨p, hp, hn⟩ := List.mem_flatMap.mp hn
    have hbody := (hparts p hp).2
    cases hkind : p.body with
    | object _ _ | interface _ _ =>
      rw [hkind] at hn hbody
      exact hbody.1 n hn
    | scalar | union _ | enum _ | input _ =>
      rw [hkind] at hn
      cases hn
  have hfields : ∀ d ∈ parts.flatMap (·.body.fields), d.Proper := by
    intro d hd
    obtain ⟨p, hp, hd⟩ := List.mem_flatMap.mp hd
    exact Sdl.TypeBody.Proper.fields (hparts p hp).2 d hd
  cases h with
  | scalar => trivial
  | object hmade | interface hmade => exact ⟨hinterfaces, proper_fields hmade hfields⟩
  | union =>
    intro n hn
    obtain ⟨p, hp, hn⟩ := List.mem_flatMap.mp hn
    have hbody := (hparts p hp).2
    cases hkind : p.body with
    | union _ =>
      rw [hkind] at hn hbody
      exact hbody n hn
    | scalar | object _ _ | interface _ _ | enum _ | input _ =>
      rw [hkind] at hn
      cases hn
  | enum => exact fun vs hvs v hv => (Assembled.enum.fresh hparts vs hvs v hv).1
  | input hmade =>
    refine proper_inputs hmade ?_
    intro d hd
    obtain ⟨p, hp, hd⟩ := List.mem_flatMap.mp hd
    exact Sdl.TypeBody.Proper.inputs (hparts p hp).2 d hd

theorem proper_ofText {text : String} {s : Schema} (h : ofText text = .ok s) :
    ∀ t ∈ s.types, t.Proper ∧ t.body.Fresh := by
  intro t ht
  rcases ofText_origin h ht with ⟨name, hname, rfl⟩ | ⟨doc, d, hread, _, hd, htype⟩
  · exact ⟨proper_builtinScalar hname, trivial⟩
  · have hdoc := Document.proper_of_read hread
    have hassembled := assembled_of_typeOf htype
    have hextensions : ∀ p ∈ (doc.filterMap Definition.extension?).filter (fun e => e.name = d.name),
        p.Proper := fun p hp => hdoc _ (mem_of_mem_extensions hp)
    have hfirst : d.Proper := hdoc _ hd
    have hparts := List.forall_mem_cons.mpr ⟨hfirst, hextensions⟩
    refine ⟨⟨?_, hassembled.proper hparts⟩, hassembled.fresh hparts⟩
    rw [typeOf_name htype]
    exact hfirst.1

end Schema

/-! ## Descriptions -/

namespace Introspection

theorem nameOf_ok {v : Value} {name : String} (h : nameOf v = .ok name) :
    v = .text name ∧ Named name := by
  unfold nameOf at h
  split at h
  · split at h
    · next hcs =>
      split at h
      · next hspelled =>
        cases h
        refine ⟨rfl, ?_⟩
        unfold Named
        rw [hcs]
        exact hspelled
      · cases h
    · cases h
  · cases h

theorem forall_values {α : Type} {name : α → String} {items : List α} {P : α → Prop}
    (h : ∀ a ∈ items, P a) :
    ∀ a ∈ Table.values (Table.ofPairs (items.map fun a => (name a, a))), P a := by
  intro a ha
  obtain ⟨p, hp, rfl⟩ := List.mem_map.mp ha
  rcases Table.mem_of_mem_putAll hp with hp | hp
  · cases hp
  · obtain ⟨b, hb, rfl⟩ := List.mem_map.mp hp
    exact h b hb

theorem fresh_enumValue {item : Value × List (String × Value)} {v : EnumValue}
    (h : enumValue item = .ok v) : v.Fresh := by
  unfold enumValue at h
  split at h
  · next name fields =>
    split at h
    · cases h
    · next hname =>
      split at h
      · cases h
      · cases h
        obtain ⟨hsame, hnamed⟩ := nameOf_ok hname
        exact ⟨Value.text.inj hsame ▸ hnamed, rfl⟩
  · cases h

theorem fresh_enumValues {items : List (Value × List (String × Value))} {vs : List EnumValue}
    (h : enumValues items = .ok vs) : ∀ v ∈ vs, v.Fresh := by
  obtain ⟨read, hread, h⟩ := bind_eq_ok.mp h
  rw [pure_eq_ok] at h
  subst h
  exact forall_values (forall_of_mapM hread fun _ _ _ hv => fresh_enumValue hv)

theorem check_ok {α : Type} {fails : Prop} [Decidable fails] {reason : String}
    {next : Unit → Answer α} {a : α}
    (h : (if fails then incomplete reason >>= next else next ()) = .ok a) : next () = .ok a := by
  split at h
  · obtain ⟨_, hfault, _⟩ := bind_eq_ok.mp h
    cases hfault
  · exact h

def Listed.Proper (t : Listed) : Prop :=
  Named t.name ∧ ∀ vs, t.values = .ok vs → ∀ v ∈ vs, v.Fresh

theorem proper_listedOf {name : Value} {fields : List (String × Value)} {t : Listed}
    (h : listedOf name fields = .ok t) : t.Proper := by
  unfold listedOf at h
  split at h
  · next kind _ =>
    have hvalues : ∀ values, (do
        let name ← nameOf name
        if isStandard name && !(kind = .scalar || kind = .object || kind = .enum) then
          incomplete "a standard type of the wrong kind"
        return { name, kind, fields, values := enumValues values } : Answer Listed) = .ok t →
          t.Proper := by
      intro values h
      obtain ⟨found, hfound, h⟩ := bind_eq_ok.mp h
      have h := check_ok h
      rw [pure_eq_ok] at h
      subst h
      exact ⟨(nameOf_ok hfound).2, fun vs hvs => fresh_enumValues hvs⟩
    have h := check_ok (check_ok h)
    dsimp only at h
    split at h
    · obtain ⟨values, _, h⟩ := bind_eq_ok.mp h
      exact hvalues values h
    · exact hvalues [] h
  · cases h

theorem proper_listed {v : Value} {p : String × Listed} (h : listed v = .ok p) :
    Named p.1 ∧ p.2.Proper := by
  obtain ⟨name, _, h⟩ := bind_eq_ok.mp h
  obtain ⟨fields, _, h⟩ := bind_eq_ok.mp h
  obtain ⟨t, ht, h⟩ := bind_eq_ok.mp h
  rw [pure_eq_ok] at h
  subst h
  have hproper := proper_listedOf ht
  exact ⟨hproper.1, hproper⟩

def Listing (types : Table String Listed) : Prop := ∀ p ∈ types, Named p.1

variable {types : Table String Listed}

theorem named_namedType (htypes : Listing types) {v : Value} {name : String} {kind : Kind}
    (h : namedType types v = .ok (name, kind)) : Named name := by
  obtain ⟨fields, _, h⟩ := bind_eq_ok.mp h
  split at h
  · next found hfound =>
    split at h
    · next kind hkind =>
      cases h
      obtain ⟨t, ht, _⟩ := Option.map_eq_some_iff.mp hkind
      exact htypes _ (Table.mem_of_get? ht)
    · cases h
  · cases h

theorem name_required (t : TypeRef) : t.required.name = t.name := by cases t <;> rfl

theorem named_typeRef (htypes : Listing types) :
    (∀ v t k, typeRef types v = .ok (t, k) → Named t.name) ∧
      ∀ all fields t k, typeRefOf types all fields = .ok (t, k) → Named t.name := by
  apply typeRef.mutual_induct (fun v => ∀ t k, typeRef types v = .ok (t, k) → Named t.name)
    (fun all fields => ∀ t k, typeRefOf types all fields = .ok (t, k) → Named t.name)
  case case1 =>
    intro fields ih t k h
    exact ih t k (by rwa [typeRef] at h)
  case case2 =>
    intro v hobject t k h
    cases v with
    | object fields => exact absurd rfl (hobject fields)
    | null | bool _ | int _ | float _ | text _ | list _ => cases h
  case case3 | case4 =>
    intro all hkind t k h
    rw [typeRefOf, hkind] at h
    cases h
  case case5 =>
    intro all hlist hrequired t k h
    rw [typeRefOf] at h
    split at h
    · next hkind => exact absurd hkind hlist
    · next hkind => exact absurd hkind hrequired
    · obtain ⟨⟨name, kind⟩, hname, h⟩ := bind_eq_ok.mp h
      cases h
      exact named_namedType htypes hname
  case case6 =>
    intro all key inner rest hother ih t k h
    rw [typeRefOf, if_pos hother] at h
    exact ih t k h
  case case7 =>
    intro all key inner rest hinner hkind ih t k h
    rw [typeRefOf, if_neg hinner, hkind] at h
    obtain ⟨⟨item, kind⟩, hitem, h⟩ := bind_eq_ok.mp h
    cases h
    exact ih item k hitem
  case case8 =>
    intro all key inner rest hinner hkind ih t k h
    rw [typeRefOf, if_neg hinner, hkind] at h
    obtain ⟨⟨item, kind⟩, hitem, h⟩ := bind_eq_ok.mp h
    dsimp only at h
    split at h
    · cases h
      rw [name_required]
      exact ih item k hitem
    · cases h
  case case9 =>
    intro all key inner rest hinner hlist hrequired ih t k h
    rw [typeRefOf, if_neg hinner] at h
    split at h
    · next hkind => exact absurd hkind hlist
    · next hkind => exact absurd hkind hrequired
    · exact ih t k h

theorem proper_inputValue (htypes : Listing types) {v : Value} {i : InputValue}
    (h : inputValue types v = .ok i) : i.Proper := by
  obtain ⟨_, _, h⟩ := bind_eq_ok.mp h
  obtain ⟨_, _, h⟩ := bind_eq_ok.mp h
  obtain ⟨⟨type, kind⟩, htype, h⟩ := bind_eq_ok.mp h
  dsimp only at h
  split at h
  · obtain ⟨_, hfault, _⟩ := bind_eq_ok.mp h
    cases hfault
  · obtain ⟨_, _, h⟩ := bind_eq_ok.mp h
    obtain ⟨_, _, h⟩ := bind_eq_ok.mp h
    obtain ⟨name, hname, h⟩ := bind_eq_ok.mp h
    rw [pure_eq_ok] at h
    subst h
    exact ⟨(nameOf_ok hname).2, (named_typeRef htypes).1 _ _ _ htype⟩

theorem proper_inputValues (htypes : Listing types) {items : List Value} {is : List InputValue}
    (h : inputValues types items = .ok is) : ∀ i ∈ is, i.Proper := by
  obtain ⟨read, hread, h⟩ := bind_eq_ok.mp h
  rw [pure_eq_ok] at h
  subst h
  exact forall_values (forall_of_mapM hread fun _ _ _ hi => proper_inputValue htypes hi)

theorem proper_field (htypes : Listing types) {v : Value} {f : Field} (h : field types v = .ok f) :
    f.Proper := by
  obtain ⟨_, _, h⟩ := bind_eq_ok.mp h
  obtain ⟨name, hname, h⟩ := bind_eq_ok.mp h
  obtain ⟨_, _, h⟩ := bind_eq_ok.mp h
  obtain ⟨⟨type, kind⟩, htype, h⟩ := bind_eq_ok.mp h
  obtain ⟨_, _, h⟩ := bind_eq_ok.mp (check_ok h)
  obtain ⟨_, _, h⟩ := bind_eq_ok.mp h
  obtain ⟨arguments, harguments, h⟩ := bind_eq_ok.mp h
  rw [pure_eq_ok] at h
  subst h
  exact ⟨(nameOf_ok hname).2, (named_typeRef htypes).1 _ _ _ htype,
    proper_inputValues htypes harguments⟩

theorem proper_fieldsOf (htypes : Listing types) {t : Listed} {fs : List Field}
    (h : fieldsOf types t = .ok fs) : ∀ f ∈ fs, f.Proper := by
  obtain ⟨_, _, h⟩ := bind_eq_ok.mp h
  obtain ⟨read, hread, h⟩ := bind_eq_ok.mp h
  rw [pure_eq_ok] at h
  subst h
  exact forall_values (forall_of_mapM hread fun _ _ _ hf => proper_field htypes hf)

theorem named_namesOf (htypes : Listing types) {kind : Kind} {items : List Value}
    {names : List String} (h : namesOf types kind items = .ok names) : ∀ n ∈ names, Named n := by
  intro n hn
  obtain ⟨v, _, hv⟩ := exists_of_mem_mapM h hn
  obtain ⟨⟨t, found⟩, ht, hv⟩ := bind_eq_ok.mp hv
  split at hv
  · next heq =>
    cases heq
    split at hv
    · cases hv
      exact (named_typeRef htypes).1 _ _ _ ht
    · cases hv
  · cases hv

theorem named_interfacesOf (htypes : Listing types) {t : Listed} {names : List String}
    (h : interfacesOf types t = .ok names) : ∀ n ∈ names, Named n := by
  unfold interfacesOf at h
  split at h
  · split at h
    · cases h
      exact nofun
    · cases h
  · obtain ⟨items, _, h⟩ := bind_eq_ok.mp h
    exact named_namesOf htypes h

theorem proper_bodyOf (htypes : Listing types) {t : Listed} (ht : t.Proper) {body : TypeBody}
    (h : bodyOf types t = .ok body) : body.Proper ∧ body.Fresh := by
  unfold bodyOf at h
  cases hkind : t.kind with
  | scalar =>
    rw [hkind] at h
    cases h
    exact ⟨trivial, trivial⟩
  | object | interface =>
    rw [hkind] at h
    obtain ⟨fields, hfields, h⟩ := bind_eq_ok.mp h
    obtain ⟨interfaces, hinterfaces, h⟩ := bind_eq_ok.mp h
    cases h
    exact ⟨⟨named_interfacesOf htypes hinterfaces, proper_fieldsOf htypes hfields⟩, trivial⟩
  | union =>
    rw [hkind] at h
    obtain ⟨items, _, h⟩ := bind_eq_ok.mp h
    obtain ⟨members, hmembers, h⟩ := bind_eq_ok.mp h
    cases h
    exact ⟨named_namesOf htypes hmembers, trivial⟩
  | enum =>
    rw [hkind] at h
    cases h
    exact ⟨fun vs hvs v hv => (ht.2 vs hvs v hv).1, ht.2⟩
  | input =>
    rw [hkind] at h
    obtain ⟨items, _, h⟩ := bind_eq_ok.mp h
    obtain ⟨inputs, hinputs, h⟩ := bind_eq_ok.mp h
    cases h
    exact ⟨proper_inputValues htypes hinputs, trivial⟩

theorem proper_typeOf? (htypes : Listing types) {listed : Listed} (hlisted : listed.Proper)
    {t : NamedType} (h : typeOf? types listed = .ok (some t)) : t.Proper ∧ t.body.Fresh := by
  unfold typeOf? at h
  split at h
  · next hbuiltin =>
    cases h
    exact ⟨Schema.proper_builtinScalar (by simpa using hbuiltin), trivial⟩
  · split at h
    · cases h
    · obtain ⟨body, hbody, h⟩ := bind_eq_ok.mp h
      cases h
      obtain ⟨hproper, hfresh⟩ := proper_bodyOf htypes hlisted (mapError_eq_ok.mp hbody)
      exact ⟨⟨hlisted.1, hproper⟩, hfresh⟩

theorem proper_schema {description : Value} {s : Schema} (h : schema description = .ok s) :
    ∀ t ∈ s.types, t.Proper ∧ t.body.Fresh := by
  obtain ⟨table, own, hlisted, _, hown, htypes⟩ := schema_types h
  have hproper : ∀ p ∈ table, Named p.1 ∧ p.2.Proper := by
    intro p hp
    obtain ⟨v, hv⟩ := hlisted p hp
    exact proper_listed hv
  intro t ht
  rw [htypes] at ht
  rcases (Schema.grows_textScalars _).2 t ht with ht | ⟨name, hname, rfl⟩
  · obtain ⟨found, hfound, rfl⟩ := List.mem_filterMap.mp ht
    obtain ⟨listed, hin, hmade⟩ := exists_of_mem_mapM hown hfound
    obtain ⟨p, hp, rfl⟩ := List.mem_map.mp hin
    exact proper_typeOf? (fun q hq => (hproper q hq).1) (hproper p hp).2 hmade
  · exact ⟨Schema.proper_builtinScalar hname, trivial⟩

end Introspection

/-! ## All schemas -/

namespace Schema

theorem proper_introspection : ∀ t ∈ introspection, t.Proper := by
  have hobjects : ∀ name ∈ Sdl.introspectionObjects, Named name := by
    unfold Named
    decide
  have henums : ∀ name ∈ Sdl.introspectionEnums, Named name := by
    unfold Named
    decide
  intro t ht
  rcases List.mem_append.mp ht with ht | ht
  · obtain ⟨name, hname, rfl⟩ := List.mem_map.mp ht
    exact ⟨hobjects name hname, by simp [TypeBody.Proper]⟩
  · obtain ⟨name, hname, rfl⟩ := List.mem_map.mp ht
    refine ⟨henums name hname, ?_⟩
    intro vs hvs
    cases hvs
    exact nofun

theorem proper_markOneOf {s s' : Schema} {type : String} (hs : ∀ t ∈ s.types, t.Proper)
    (h : s.markOneOf type = .ok s') : ∀ t ∈ s'.types, t.Proper := by
  refine forall_changeType ?_ proper_introspection hs h
  intro t t' ht hchange
  split at hchange
  · next hinput =>
    cases hchange
    have hbody := ht.2
    rw [hinput] at hbody
    exact ⟨ht.1, hbody⟩
  · cases hchange
    exact ht

theorem proper_storeDefault {s s' : Schema} {type field : String} (hs : ∀ t ∈ s.types, t.Proper)
    (h : s.storeDefault type field = .ok s') : ∀ t ∈ s'.types, t.Proper := by
  refine forall_changeType ?_ proper_introspection hs h
  intro t t' ht hchange
  split at hchange
  · next hinput =>
    split at hchange
    · cases hchange
    · cases hchange
      refine ⟨ht.1, ?_⟩
      have hbody := ht.2
      rw [hinput] at hbody
      intro i hi
      obtain ⟨j, hj, rfl⟩ := List.mem_map.mp hi
      split
      · exact hbody j hj
      · exact hbody j hj
  · split at hchange
    · cases hchange
    · cases hchange
      exact ht
  · split at hchange
    · cases hchange
    · cases hchange
      exact ht
  · cases hchange

theorem proper_storeEnumValue {s s' : Schema} {enum value : String} {stored : StoredValue}
    (hs : ∀ t ∈ s.types, t.Proper) (h : s.storeEnumValue enum value stored = .ok s') :
    ∀ t ∈ s'.types, t.Proper := by
  refine forall_changeType ?_ proper_introspection hs h
  intro t t' ht hchange
  split at hchange
  · next hbody =>
    obtain ⟨values, hvalues, hchange⟩ := bind_eq_ok.mp hchange
    split at hchange
    · cases hchange
    · cases hchange
      refine ⟨ht.1, ?_⟩
      have hproper := ht.2
      rw [hbody, mapError_eq_ok.mp hvalues] at hproper
      intro vs hvs v hv
      cases hvs
      obtain ⟨w, hw, rfl⟩ := List.mem_map.mp hv
      split
      · exact hproper _ rfl w hw
      · exact hproper _ rfl w hw
  · cases hchange

/-- **All names of a schema are spelled as names are.** -/
theorem Built.proper {s : Schema} (h : s.Built) : ∀ t ∈ s.types, t.Proper := by
  induction h with
  | ofText h => exact fun t ht => (proper_ofText h t ht).1
  | described h => exact fun t ht => (Introspection.proper_schema h t ht).1
  | markedOneOf _ h ih => exact proper_markOneOf ih h
  | storedDefault _ h ih => exact proper_storeDefault ih h
  | storedValue _ h ih => exact proper_storeEnumValue ih h

end Schema

end SchemaTypings
