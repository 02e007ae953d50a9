import Mathlib.Data.List.Flatten
import Mathlib.Data.List.Perm.Basic
import SchemaTypings.Proofs.TypeMap
import SchemaTypings.Schema.Introspection

/-!
# The names of input fields

Wherever a schema comes from, an input names each of its fields once: a document that repeats one
has a flaw, a description of a schema keeps the last one under a name, and changes by hand rename
nothing.
-/

open SchemaTypings.Outcome SchemaTypings.Sdl

namespace SchemaTypings

/-- No two fields of an input share a name. -/
def NamedType.FieldsDistinct (t : NamedType) : Prop :=
  ∀ oneOf fields, t.body = .input oneOf fields → (fields.map InputValue.name).Nodup

/-! ## Documents -/

namespace Schema

theorem nodup_of_repeated {names : List String} (h : repeated names = []) : names.Nodup := by
  induction names with
  | nil => exact List.nodup_nil
  | cons name rest ih =>
    rw [repeated, List.append_eq_nil_iff] at h
    refine List.nodup_cons.mpr ⟨?_, ih h.2⟩
    intro hmem
    simp [hmem] at h

theorem perm_typeDefs (doc : Document) :
    (doc.filterMap Definition.typeDef?).Perm
      (doc.filterMap Definition.ownType? ++ doc.filterMap Definition.extension?) := by
  induction doc with
  | nil => exact .refl _
  | cons d rest ih =>
    cases d with
    | type d => exact ih.cons d
    | extendType d => exact (ih.cons d).trans List.perm_middle.symm
    | _ => exact ih

theorem subperm_typeDefs {doc : Document} {d : TypeDef} (hd : Definition.type d ∈ doc) :
    (d :: (doc.filterMap Definition.extension?).filter fun e => e.name = d.name).Subperm
      ((doc.filterMap Definition.typeDef?).filter fun e => e.name = d.name) := by
  have hown : d ∈ (doc.filterMap Definition.ownType?).filter fun e => e.name = d.name := by
    rw [List.mem_filter, List.mem_filterMap]
    exact ⟨⟨_, hd, rfl⟩, decide_eq_true rfl⟩
  -- Definitions and extensions are read from the document in another order.
  have hperm := (perm_typeDefs doc).filter fun e => decide (e.name = d.name)
  rw [List.filter_append] at hperm
  exact ((List.singleton_sublist.mpr hown).append (List.Sublist.refl _)).subperm.trans
    hperm.symm.subperm

theorem members_nodup {doc : Document} (h : doc.flaws = []) (name : String) :
    (((doc.filterMap Definition.typeDef?).filter fun d => d.name = name).flatMap fun d =>
      d.body.fields.map (·.name) ++ d.body.inputs.map (·.name)).Nodup := by
  have hrule : ruleMembers doc = [] := rule_nil h (by simp [rules])
  unfold ruleMembers at hrule
  rw [List.flatMap_eq_nil_iff] at hrule
  by_cases hname : name ∈ ((doc.filterMap Definition.typeDef?).map (·.name)).eraseDups
  · have hnone := hrule name hname
    rw [List.map_eq_nil_iff, List.append_eq_nil_iff] at hnone
    exact nodup_of_repeated hnone.1
  · have hempty : ((doc.filterMap Definition.typeDef?).filter fun d => d.name = name) = [] := by
      rw [List.filter_eq_nil_iff]
      intro d hd hdn
      rw [List.mem_eraseDups] at hname
      exact hname (List.mem_map.mpr ⟨d, hd, of_decide_eq_true hdn⟩)
    rw [hempty]
    exact List.nodup_nil

theorem inputs_nodup {doc : Document} (h : doc.flaws = []) {d : TypeDef}
    (hd : Definition.type d ∈ doc) :
    (((d :: (doc.filterMap Definition.extension?).filter fun e => e.name = d.name).flatMap
      (·.body.inputs)).map (·.name)).Nodup := by
  obtain ⟨parts, hperm, hsub⟩ := subperm_typeDefs hd
  have hinputs := (hperm.symm.flatMap_right (·.body.inputs)).map (·.name)
  rw [hinputs.nodup_iff, List.map_flatMap]
  refine (members_nodup h d.name).sublist ((hsub.flatMap _).trans ?_)
  exact List.Sublist.flatMap_right _ fun _ _ => List.sublist_append_right _ _

theorem inputOf_name {d : InputDef} {i : InputValue} (h : inputOf d = .ok i) : i.name = d.name := by
  obtain ⟨_, _, h⟩ := bind_eq_ok.mp h
  rw [pure_eq_ok] at h
  rw [← h]

theorem names_inputs {ds : List InputDef} {is : List InputValue} (h : ds.mapM inputOf = .ok is) :
    is.map InputValue.name = ds.map (·.name) := by
  rw [mapM_eq_ok] at h
  induction h with
  | nil => rfl
  | cons hd _ ih => rw [List.map_cons, List.map_cons, ih, inputOf_name hd]

theorem fieldsDistinct_typeOf {doc : Document} (h : doc.flaws = []) {d : TypeDef}
    (hd : Definition.type d ∈ doc) {t : NamedType}
    (ht : typeOf d ((doc.filterMap Definition.extension?).filter fun e => e.name = d.name) =
      .ok t) : t.FieldsDistinct := by
  intro oneOf fields hbody
  have hparts := assembled_of_typeOf ht
  rw [hbody] at hparts
  cases hparts with
  | input hinputs =>
    rw [names_inputs hinputs]
    exact inputs_nodup h hd

end Schema

/-! ## Descriptions -/

namespace Introspection

theorem inputValues_nodup {types : Table String Listed} {items : List Value}
    {inputs : List InputValue} (h : inputValues types items = .ok inputs) :
    (inputs.map InputValue.name).Nodup := by
  obtain ⟨read, _, h⟩ := bind_eq_ok.mp h
  rw [pure_eq_ok] at h
  rw [← h]
  exact Table.nodup_map_values InputValue.name read

theorem fieldsDistinct_typeOf? {types : Table String Listed} {listed : Listed} {t : NamedType}
    (h : typeOf? types listed = .ok (some t)) : t.FieldsDistinct := by
  intro oneOf fields hbody
  unfold typeOf? at h
  split at h
  · cases h
    cases hbody
  · split at h
    · cases h
    · obtain ⟨body, hparts, h⟩ := bind_eq_ok.mp h
      rw [pure_eq_ok] at h
      cases h
      obtain rfl : body = .input oneOf fields := hbody
      have hparts := mapError_eq_ok.mp hparts
      unfold bodyOf at hparts
      cases hkind : listed.kind with
      | input =>
        simp only [hkind] at hparts
        obtain ⟨items, _, hparts⟩ := bind_eq_ok.mp hparts
        obtain ⟨inputs, hinputs, hparts⟩ := bind_eq_ok.mp hparts
        rw [pure_eq_ok] at hparts
        cases hparts
        exact inputValues_nodup hinputs
      | object | interface | union =>
        simp only [hkind] at hparts
        obtain ⟨_, _, hparts⟩ := bind_eq_ok.mp hparts
        obtain ⟨_, _, hparts⟩ := bind_eq_ok.mp hparts
        rw [pure_eq_ok] at hparts
        cases hparts
      | scalar | enum =>
        simp only [hkind, pure_eq_ok] at hparts
        cases hparts

theorem listed_name {v : Value} {p : String × Listed} (h : listed v = .ok p) : p.1 = p.2.name := by
  obtain ⟨name, _, h⟩ := bind_eq_ok.mp h
  obtain ⟨fields, _, h⟩ := bind_eq_ok.mp h
  obtain ⟨t, _, h⟩ := bind_eq_ok.mp h
  rw [pure_eq_ok] at h
  rw [← h]

theorem schema_types {description : Value} {s : Schema} (h : schema description = .ok s) :
    ∃ (table : Table String Listed) (own : List (Option NamedType)),
      (∀ p ∈ table, ∃ v, listed v = .ok p) ∧ ((Table.values table).map Listed.name).Nodup ∧
      (Table.values table).mapM (typeOf? table) = .ok own ∧
      s.types = ["String", "Boolean"].foldl Schema.addScalar (own.filterMap id) := by
  unfold schema at h
  split at h
  case h_2 => simp [incomplete] at h
  obtain ⟨types, _, h⟩ := bind_eq_ok.mp h
  obtain ⟨items, _, h⟩ := bind_eq_ok.mp h
  obtain ⟨read, hread, h⟩ := bind_eq_ok.mp h
  obtain ⟨_, _, h⟩ := bind_eq_ok.mp h
  -- Directives come after the types and change none of them.
  have hrest : ∃ directives : List (String × Note), (do
      let own ← (Table.values (Table.ofPairs read)).mapM (typeOf? (Table.ofPairs read))
      return { types := ["String", "Boolean"].foldl Schema.addScalar (own.filterMap id),
               directives }) = Except.ok s := by
    simp only at h
    split at h
    · obtain ⟨_, _, h⟩ := bind_eq_ok.mp h
      obtain ⟨directives, _, h⟩ := bind_eq_ok.mp h
      exact ⟨directives, h⟩
    · exact ⟨[], h⟩
  obtain ⟨directives, h⟩ := hrest
  obtain ⟨own, hown, h⟩ := bind_eq_ok.mp h
  rw [pure_eq_ok] at h
  -- Each type is listed under its own name.
  have hnamed : read = (read.map Prod.snd).map fun t => (t.name, t) := by
    rw [List.map_map]
    refine (List.map_id read).symm.trans (List.map_congr_left fun p hp => ?_)
    obtain ⟨v, _, hv⟩ := exists_of_mem_mapM hread hp
    exact Prod.ext (listed_name hv) rfl
  have hnodup := Table.nodup_map_values Listed.name (read.map Prod.snd)
  rw [← hnamed] at hnodup
  have hlisted : ∀ p ∈ Table.ofPairs read, ∃ v, listed v = .ok p := by
    intro p hp
    rcases Table.mem_of_mem_putAll hp with hp | hp
    · cases hp
    · obtain ⟨v, _, hv⟩ := exists_of_mem_mapM hread hp
      exact ⟨v, hv⟩
  rw [← h]
  exact ⟨_, own, hlisted, hnodup, hown, rfl⟩

theorem fieldsDistinct_schema {description : Value} {s : Schema}
    (h : schema description = .ok s) : ∀ t ∈ s.types, t.FieldsDistinct := by
  obtain ⟨table, own, _, _, hown, htypes⟩ := schema_types h
  intro t ht
  rw [htypes] at ht
  rcases (Schema.grows_textScalars _).2 t ht with ht | ⟨name, _, rfl⟩
  · obtain ⟨found, hfound, rfl⟩ := List.mem_filterMap.mp ht
    obtain ⟨listed, _, hlisted⟩ := exists_of_mem_mapM hown hfound
    exact fieldsDistinct_typeOf? hlisted
  · exact nofun

end Introspection

/-! ## Changes by hand -/

namespace Schema

theorem forall_changeType {P : NamedType → Prop} {f : NamedType → Except ChangeFault NamedType}
    (hf : ∀ t t', P t → f t = .ok t' → P t') (hintro : ∀ t ∈ introspection, P t) {s s' : Schema}
    {name : String} (hs : ∀ t ∈ s.types, P t) (h : s.changeType name f = .ok s') :
    ∀ t ∈ s'.types, P t := by
  unfold changeType at h
  cases hfind : s.find? name with
  | none =>
    rw [hfind] at h
    cases h
  | some found =>
    rw [hfind] at h
    obtain ⟨changed, hchanged, h⟩ := bind_eq_ok.mp h
    rw [pure_eq_ok] at h
    subst h
    have hfound : P found := by
      rcases List.mem_append.mp (List.mem_of_find?_eq_some hfind) with hin | hin
      · exact hs found hin
      · exact hintro found hin
    intro t ht
    obtain ⟨before, hbefore, rfl⟩ := List.mem_map.mp ht
    split
    · exact hf found changed hfound hchanged
    · exact hs before hbefore

theorem fieldsDistinct_introspection : ∀ t ∈ introspection, t.FieldsDistinct := by
  intro t ht oneOf fields hbody
  rcases List.mem_append.mp ht with ht | ht
  · obtain ⟨_, _, rfl⟩ := List.mem_map.mp ht
    cases hbody
  · obtain ⟨_, _, rfl⟩ := List.mem_map.mp ht
    cases hbody

theorem fieldsDistinct_markOneOf {s s' : Schema} {type : String}
    (hs : ∀ t ∈ s.types, t.FieldsDistinct) (h : s.markOneOf type = .ok s') :
    ∀ t ∈ s'.types, t.FieldsDistinct := by
  refine forall_changeType ?_ fieldsDistinct_introspection hs h
  intro t t' ht hchange oneOf fields hbody
  split at hchange
  · next hinput =>
    cases hchange
    cases hbody
    exact ht _ _ hinput
  · cases hchange
    exact ht _ _ hbody

theorem fieldsDistinct_storeDefault {s s' : Schema} {type field : String}
    (hs : ∀ t ∈ s.types, t.FieldsDistinct) (h : s.storeDefault type field = .ok s') :
    ∀ t ∈ s'.types, t.FieldsDistinct := by
  refine forall_changeType ?_ fieldsDistinct_introspection hs h
  intro t t' ht hchange oneOf fields hbody
  split at hchange
  · next hinput =>
    split at hchange
    · cases hchange
    · cases hchange
      cases hbody
      -- A stored default changes no name.
      have hnames : ∀ fs : List InputValue, (fs.map fun f =>
          if f.name = field then { f with hasDefault := true } else f).map InputValue.name =
            fs.map InputValue.name := by
        intro fs
        rw [List.map_map]
        refine List.map_congr_left fun f _ => ?_
        rw [Function.comp_apply]
        split <;> rfl
      rw [hnames]
      exact ht _ _ hinput
  · split at hchange
    · cases hchange
    · cases hchange
      exact ht _ _ hbody
  · split at hchange
    · cases hchange
    · cases hchange
      exact ht _ _ hbody
  · cases hchange

theorem fieldsDistinct_storeEnumValue {s s' : Schema} {enum value : String} {stored : StoredValue}
    (hs : ∀ t ∈ s.types, t.FieldsDistinct) (h : s.storeEnumValue enum value stored = .ok s') :
    ∀ t ∈ s'.types, t.FieldsDistinct := by
  refine forall_changeType ?_ fieldsDistinct_introspection hs h
  intro t t' ht hchange oneOf fields hbody
  split at hchange
  · obtain ⟨values, _, hchange⟩ := bind_eq_ok.mp hchange
    split at hchange
    · cases hchange
    · cases hchange
      cases hbody
  · cases hchange

/-! ## All schemas -/

/-- A schema from a text or from its description, perhaps changed by hand. -/
inductive Built : Schema → Prop
  | ofText {text s} (h : ofText text = .ok s) : Built s
  | described {description s} (h : Introspection.schema description = .ok s) : Built s
  | markedOneOf {s s' type} (hs : Built s) (h : s.markOneOf type = .ok s') : Built s'
  | storedDefault {s s' type field} (hs : Built s) (h : s.storeDefault type field = .ok s') :
      Built s'
  | storedValue {s s' enum value stored} (hs : Built s)
      (h : s.storeEnumValue enum value stored = .ok s') : Built s'

theorem Built.fieldsDistinct {s : Schema} (h : s.Built) : ∀ t ∈ s.types, t.FieldsDistinct := by
  induction h with
  | ofText h =>
    intro t ht
    rcases ofText_origin h ht with ⟨name, _, rfl⟩ | ⟨doc, d, _, hflaws, hd, htype⟩
    · exact nofun
    · exact fieldsDistinct_typeOf hflaws hd htype
  | described h => exact Introspection.fieldsDistinct_schema h
  | markedOneOf _ h ih => exact fieldsDistinct_markOneOf ih h
  | storedDefault _ h ih => exact fieldsDistinct_storeDefault ih h
  | storedValue _ h ih => exact fieldsDistinct_storeEnumValue ih h

end Schema

end SchemaTypings
