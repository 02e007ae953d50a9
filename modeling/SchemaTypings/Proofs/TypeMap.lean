import SchemaTypings.Proofs.Outcome
import SchemaTypings.Schema.Build

/-!
# The type map of a built schema

A document without flaws names only types that it defines or that exist without a definition. The
schema that is built from it has each of them among its types, apart from the types in which schemas
describe themselves.
-/

open SchemaTypings.Outcome SchemaTypings.Sdl

namespace SchemaTypings.Schema

/-! ## Documents without flaws -/

theorem rule_nil {doc : Document} (h : doc.flaws = []) {rule : Document → List Flaw}
    (hrule : rule ∈ rules) : rule doc = [] := by
  unfold Document.flaws at h
  rw [List.flatMap_eq_nil_iff] at h
  exact h rule hrule

theorem known_of_flawless {doc : Document} (h : doc.flaws = []) {d : Definition} (hd : d ∈ doc)
    (hexec : d.isExecutable = false) {n : String} (hn : n ∈ d.typeNames) :
    n ∈ (doc.filterMap Definition.ownType?).map (·.name) ∨ n ∈ standardTypes := by
  have hrule : ruleKnownTypes doc = [] := rule_nil h (by simp [rules])
  unfold ruleKnownTypes at hrule
  rw [List.flatMap_eq_nil_iff] at hrule
  have hnone := hrule d hd
  rw [List.map_eq_nil_iff, List.filter_eq_nil_iff] at hnone
  have hknown := hnone n hn
  simp only [hexec, Bool.false_eq_true, if_false, Bool.not_eq_true', Bool.not_eq_false,
    List.contains_iff_mem] at hknown
  exact List.mem_append.mp hknown

/-! ## The types that a built type names -/

theorem inputOf_type {d : InputDef} {i : InputValue} (h : inputOf d = .ok i) : i.type = d.type := by
  obtain ⟨_, _, h⟩ := bind_eq_ok.mp h
  rw [pure_eq_ok] at h
  rw [← h]

theorem mem_inputs {ds : List InputDef} {is : List InputValue} (h : ds.mapM inputOf = .ok is)
    {n : String} (hn : n ∈ is.map (·.type.name)) : n ∈ ds.map (·.type.name) := by
  obtain ⟨i, hi, rfl⟩ := List.mem_map.mp hn
  obtain ⟨d, hd, hdi⟩ := exists_of_mem_mapM h hi
  exact List.mem_map.mpr ⟨d, hd, by rw [inputOf_type hdi]⟩

theorem fieldOf_parts {d : FieldDef} {f : Field} (h : fieldOf d = .ok f) :
    f.type = d.type ∧ d.arguments.mapM inputOf = .ok f.arguments := by
  obtain ⟨arguments, harguments, h⟩ := bind_eq_ok.mp h
  obtain ⟨_, _, h⟩ := bind_eq_ok.mp h
  rw [pure_eq_ok] at h
  rw [← h]
  exact ⟨rfl, harguments⟩

theorem mem_fields {ds : List FieldDef} {fs : List Field} (h : ds.mapM fieldOf = .ok fs)
    {n : String} (hn : n ∈ fs.flatMap fun f => f.type.name :: f.arguments.map (·.type.name)) :
    n ∈ ds.flatMap fun d => d.type.name :: d.arguments.map (·.type.name) := by
  obtain ⟨f, hf, hn⟩ := List.mem_flatMap.mp hn
  obtain ⟨d, hd, hdf⟩ := exists_of_mem_mapM h hf
  obtain ⟨htype, hargs⟩ := fieldOf_parts hdf
  refine List.mem_flatMap.mpr ⟨d, hd, ?_⟩
  rcases List.mem_cons.mp hn with rfl | hn
  · rw [htype]
    exact List.mem_cons_self
  · exact List.mem_cons_of_mem _ (mem_inputs hargs hn)

/-- The interfaces that the parts of a type name. -/
def partInterfaces (parts : List TypeDef) : List String :=
  parts.flatMap fun p =>
    match p.body with
    | .object interfaces _ | .interface interfaces _ => interfaces
    | _ => []

def partMembers (parts : List TypeDef) : List String :=
  parts.flatMap fun p =>
    match p.body with
    | .union members => members
    | _ => []

def partNames (parts : List TypeDef) : List String := parts.flatMap (·.body.typeNames)

theorem mem_partNames {parts : List TypeDef} {p : TypeDef} (hp : p ∈ parts) {n : String}
    (hn : n ∈ p.body.typeNames) : n ∈ partNames parts :=
  List.mem_flatMap.mpr ⟨p, hp, hn⟩

theorem partNames_of_interfaces {parts : List TypeDef} {n : String}
    (hn : n ∈ partInterfaces parts) : n ∈ partNames parts := by
  obtain ⟨p, hp, hn⟩ := List.mem_flatMap.mp hn
  refine mem_partNames hp ?_
  cases hb : p.body <;> simp_all [TypeBody.typeNames]

theorem partNames_of_fields {parts : List TypeDef} {fs : List Field}
    (h : (parts.flatMap (·.body.fields)).mapM fieldOf = .ok fs) {n : String}
    (hn : n ∈ fs.flatMap fun f => f.type.name :: f.arguments.map (·.type.name)) :
    n ∈ partNames parts := by
  obtain ⟨d, hd, hn⟩ := List.mem_flatMap.mp (mem_fields h hn)
  obtain ⟨p, hp, hd⟩ := List.mem_flatMap.mp hd
  refine mem_partNames hp ?_
  have hin : n ∈ p.body.fields.flatMap fun f => f.type.name :: f.arguments.map (·.type.name) :=
    List.mem_flatMap.mpr ⟨d, hd, hn⟩
  cases hb : p.body with
  | object _ _ | interface _ _ =>
    rw [hb] at hin
    exact List.mem_append_right _ hin
  | scalar | union _ | enum _ | input _ => simp [hb, TypeBody.fields] at hd

theorem partNames_of_members {parts : List TypeDef} {n : String} (hn : n ∈ partMembers parts) :
    n ∈ partNames parts := by
  obtain ⟨p, hp, hn⟩ := List.mem_flatMap.mp hn
  refine mem_partNames hp ?_
  cases hb : p.body <;> simp_all [TypeBody.typeNames]

theorem partNames_of_inputs {parts : List TypeDef} {is : List InputValue}
    (h : (parts.flatMap (·.body.inputs)).mapM inputOf = .ok is) {n : String}
    (hn : n ∈ is.map (·.type.name)) : n ∈ partNames parts := by
  obtain ⟨d, hd, rfl⟩ := List.mem_map.mp (mem_inputs h hn)
  obtain ⟨p, hp, hd⟩ := List.mem_flatMap.mp hd
  refine mem_partNames hp ?_
  cases hb : p.body with
  | input fields =>
    rw [hb] at hd
    exact List.mem_map.mpr ⟨d, hd, rfl⟩
  | scalar | object _ _ | interface _ _ | union _ | enum _ => simp [hb, TypeBody.inputs] at hd

/-- All that the parts of a type can be put together to. -/
inductive Assembled (parts : List TypeDef) : TypeBody → Prop
  | scalar : Assembled parts .scalar
  | object {fields} (h : (parts.flatMap (·.body.fields)).mapM fieldOf = .ok fields) :
      Assembled parts (.object (partInterfaces parts) fields)
  | interface {fields} (h : (parts.flatMap (·.body.fields)).mapM fieldOf = .ok fields) :
      Assembled parts (.interface (partInterfaces parts) fields)
  | union : Assembled parts (.union (partMembers parts))
  | enum : Assembled parts (.enum ((parts.flatMap (·.body.values)).mapM enumValueOf))
  | input {oneOf inputs} (h : (parts.flatMap (·.body.inputs)).mapM inputOf = .ok inputs) :
      Assembled parts (.input oneOf inputs)

theorem assembled_of_typeOf {d : TypeDef} {extensions : List TypeDef} {t : NamedType}
    (h : typeOf d extensions = .ok t) : Assembled (d :: extensions) t.body := by
  obtain ⟨body, hbody, h⟩ := bind_eq_ok.mp h
  rw [pure_eq_ok] at h
  subst h
  unfold bodyOf at hbody
  cases hd : d.body with
  | scalar =>
    simp only [hd] at hbody
    obtain ⟨_, _, h⟩ := bind_eq_ok.mp hbody
    rw [pure_eq_ok] at h
    exact h ▸ .scalar
  | object _ _ =>
    simp only [hd] at hbody
    obtain ⟨fields, hfields, h⟩ := bind_eq_ok.mp hbody
    rw [pure_eq_ok] at h
    exact h ▸ .object hfields
  | interface _ _ =>
    simp only [hd] at hbody
    obtain ⟨fields, hfields, h⟩ := bind_eq_ok.mp hbody
    rw [pure_eq_ok] at h
    exact h ▸ .interface hfields
  | union _ =>
    simp only [hd, pure_eq_ok] at hbody
    exact hbody ▸ .union
  | enum _ =>
    simp only [hd, pure_eq_ok] at hbody
    exact hbody ▸ .enum
  | input _ =>
    simp only [hd] at hbody
    obtain ⟨fields, hfields, h⟩ := bind_eq_ok.mp hbody
    rw [pure_eq_ok] at h
    exact h ▸ .input hfields

theorem namedBy_typeOf {d : TypeDef} {extensions : List TypeDef} {t : NamedType}
    (h : typeOf d extensions = .ok t) {n : String} (hn : n ∈ namedBy t) :
    n ∈ partNames (d :: extensions) := by
  have hparts := assembled_of_typeOf h
  unfold namedBy at hn
  generalize t.body = body at hparts hn
  cases hparts with
  | scalar | enum => cases hn
  | object hfields | interface hfields =>
    rcases List.mem_append.mp hn with hn | hn
    · exact partNames_of_interfaces hn
    · exact partNames_of_fields hfields hn
  | union => exact partNames_of_members hn
  | input hinputs => exact partNames_of_inputs hinputs hn

/-! ## Where built-in scalars are added -/

/-- One list of types has those of another and perhaps more built-in scalars. -/
def Grows (types larger : List NamedType) : Prop :=
  types ⊆ larger ∧ ∀ t ∈ larger, t ∈ types ∨ ∃ name ∈ builtinScalars, t = builtinScalar name

theorem Grows.refl (types : List NamedType) : Grows types types :=
  ⟨List.Subset.refl _, fun _ ht => Or.inl ht⟩

theorem Grows.trans {a b c : List NamedType} (hab : Grows a b) (hbc : Grows b c) : Grows a c := by
  refine ⟨List.Subset.trans hab.1 hbc.1, ?_⟩
  intro t ht
  rcases hbc.2 t ht with ht | ht
  · exact hab.2 t ht
  · exact Or.inr ht

theorem grows_foldl {α : Type} {step : List NamedType → α → List NamedType} {xs : List α}
    (hstep : ∀ types, ∀ x ∈ xs, Grows types (step types x)) (types : List NamedType) :
    Grows types (xs.foldl step types) := by
  induction xs generalizing types with
  | nil => exact Grows.refl types
  | cons x xs ih =>
    have hfirst := hstep types x List.mem_cons_self
    exact hfirst.trans (ih (fun types y hy => hstep types y (List.mem_cons_of_mem x hy)) _)

theorem grows_addScalar (types : List NamedType) {name : String} (hname : name ∈ builtinScalars) :
    Grows types (addScalar types name) := by
  unfold addScalar
  split
  · exact Grows.refl types
  · refine ⟨List.subset_append_left _ _, ?_⟩
    intro t ht
    rcases List.mem_append.mp ht with ht | ht
    · exact Or.inl ht
    · exact Or.inr ⟨name, hname, List.mem_singleton.mp ht⟩

theorem has_addScalar (types : List NamedType) (name : String) :
    ∃ u ∈ addScalar types name, u.name = name := by
  unfold addScalar
  split
  · next h => simpa using h
  · exact ⟨builtinScalar name, by simp, rfl⟩

/-- Adds the scalars behind a name, apart from those that a document defines itself. -/
def addBehind (defined : List String) (types : List NamedType) (name : String) : List NamedType :=
  (scalarsBehind name).foldl
    (fun types name => if defined.contains name then types else addScalar types name) types

theorem withScalars_eq (own : List NamedType) (further : List String) :
    withScalars own further =
      further.foldl (addBehind (own.map (·.name)))
        (own.foldl (fun types t => (namedBy t).foldl (addBehind (own.map (·.name))) (types ++ [t]))
          []) := rfl

theorem scalarsBehind_subset (name : String) : scalarsBehind name ⊆ builtinScalars := by
  unfold scalarsBehind
  split
  · next h => simpa using h
  · split <;> decide

theorem grows_addBehind (defined : List String) (types : List NamedType) (name : String) :
    Grows types (addBehind defined types name) := by
  refine grows_foldl ?_ types
  intro types scalar hscalar
  split
  · exact Grows.refl types
  · exact grows_addScalar types (scalarsBehind_subset name hscalar)

theorem grows_addBehinds (defined : List String) (types : List NamedType) (names : List String) :
    Grows types (names.foldl (addBehind defined) types) :=
  grows_foldl (fun types name _ => grows_addBehind defined types name) types

theorem grows_textScalars (types : List NamedType) :
    Grows types (["String", "Boolean"].foldl addScalar types) := by
  have hbuiltin : ["String", "Boolean"] ⊆ builtinScalars := by decide
  exact grows_foldl (fun types _ hname => grows_addScalar types (hbuiltin hname)) types

theorem has_addBehind {defined : List String} {name : String} (hname : name ∈ builtinScalars)
    (hnew : name ∉ defined) (types : List NamedType) :
    ∃ u ∈ addBehind defined types name, u.name = name := by
  unfold addBehind scalarsBehind
  simpa [hname, hnew] using has_addScalar types name

theorem has_foldl_addBehind {defined names : List String} {name : String}
    (hname : name ∈ builtinScalars) (hnew : name ∉ defined) (hin : name ∈ names)
    (types : List NamedType) : ∃ u ∈ names.foldl (addBehind defined) types, u.name = name := by
  induction names generalizing types with
  | nil => simp at hin
  | cons other names ih =>
    rcases List.mem_cons.mp hin with rfl | hin
    · obtain ⟨u, hu, hun⟩ := has_addBehind hname hnew types
      exact ⟨u, (grows_addBehinds defined _ names).1 hu, hun⟩
    · exact ih hin _

theorem ordered_spec (defined : List String) (own types : List NamedType) :
    let ordered :=
      own.foldl (fun types t => (namedBy t).foldl (addBehind defined) (types ++ [t])) types
    types ⊆ ordered ∧ own ⊆ ordered ∧
      (∀ t ∈ ordered, t ∈ types ∨ t ∈ own ∨ ∃ name ∈ builtinScalars, t = builtinScalar name) ∧
      ∀ t ∈ own, ∀ n ∈ namedBy t, n ∈ builtinScalars → n ∉ defined → ∃ u ∈ ordered, u.name = n := by
  induction own generalizing types with
  | nil => exact ⟨List.Subset.refl _, List.nil_subset _, fun _ ht => Or.inl ht, by simp⟩
  | cons t own ih =>
    have hgrows := grows_addBehinds defined (types ++ [t]) (namedBy t)
    obtain ⟨hkept, hown, horigin, huses⟩ :=
      ih ((namedBy t).foldl (addBehind defined) (types ++ [t]))
    refine ⟨?_, ?_, ?_, ?_⟩
    · exact fun u hu => hkept (hgrows.1 (List.mem_append_left _ hu))
    · intro u hu
      rcases List.mem_cons.mp hu with rfl | hu
      · exact hkept (hgrows.1 (by simp))
      · exact hown hu
    · intro u hu
      rcases horigin u hu with hu | hu | hu
      · rcases hgrows.2 u hu with hu | hu
        · simp only [List.mem_append, List.mem_singleton] at hu
          rcases hu with hu | rfl
          · exact Or.inl hu
          · exact Or.inr (Or.inl List.mem_cons_self)
        · exact Or.inr (Or.inr hu)
      · exact Or.inr (Or.inl (List.mem_cons_of_mem _ hu))
      · exact Or.inr (Or.inr hu)
    · intro u hu n hn hbuiltin hnew
      rcases List.mem_cons.mp hu with rfl | hu
      · obtain ⟨v, hv, hvn⟩ := has_foldl_addBehind hbuiltin hnew hn (types ++ [u])
        exact ⟨v, hkept hv, hvn⟩
      · exact huses u hu n hn hbuiltin hnew

/-- All types of a document are among those of its schema, which has no others than them and
built-in scalars. Each built-in scalar that one of them names is there. -/
theorem withScalars_spec (own : List NamedType) (further : List String) :
    own ⊆ withScalars own further ∧
      (∀ t ∈ withScalars own further, t ∈ own ∨ ∃ name ∈ builtinScalars, t = builtinScalar name) ∧
      ∀ t ∈ own, ∀ n ∈ namedBy t, n ∈ builtinScalars →
        ∃ u ∈ withScalars own further, u.name = n := by
  rw [withScalars_eq]
  obtain ⟨_, hown, horigin, huses⟩ := ordered_spec (own.map (·.name)) own []
  have hgrows := fun types => grows_addBehinds (own.map (·.name)) types further
  refine ⟨fun t ht => (hgrows _).1 (hown ht), ?_, ?_⟩
  · intro t ht
    rcases (hgrows _).2 t ht with ht | ht
    · rcases horigin t ht with ht | ht
      · simp at ht
      · exact ht
    · exact Or.inr ht
  · intro t ht n hn hbuiltin
    by_cases hdef : n ∈ own.map (·.name)
    · obtain ⟨u, hu, hun⟩ := List.mem_map.mp hdef
      exact ⟨u, (hgrows _).1 (hown hu), hun⟩
    · obtain ⟨u, hu, hun⟩ := huses t ht n hn hbuiltin hdef
      exact ⟨u, (hgrows _).1 hu, hun⟩

/-! ## The types of a document -/

/-- A type of a document is a built-in scalar, or it comes from a definition and its extensions. -/
theorem typesOf_origin {doc : Document} {own : List NamedType} (h : typesOf doc = .ok own)
    {t : NamedType} (ht : t ∈ own) :
    (∃ name ∈ builtinScalars, t = builtinScalar name) ∨ ∃ d, Definition.type d ∈ doc ∧
      typeOf d ((doc.filterMap Definition.extension?).filter fun e => e.name = d.name) = .ok t := by
  obtain ⟨d, hd, hdt⟩ := exists_of_mem_mapM h ht
  rw [List.mem_filter, List.mem_filterMap] at hd
  obtain ⟨⟨def', hdef, hown⟩, _⟩ := hd
  split at hdt
  · next hbuiltin =>
    rw [pure_eq_ok] at hdt
    exact Or.inl ⟨d.name, by simpa using hbuiltin, hdt.symm⟩
  · refine Or.inr ⟨d, ?_, hdt⟩
    cases def' <;> simp_all [Definition.ownType?]

theorem mem_of_mem_extensions {doc : Document} {name : String} {e : TypeDef}
    (he : e ∈ (doc.filterMap Definition.extension?).filter fun e => e.name = name) :
    Definition.extendType e ∈ doc := by
  obtain ⟨def', hdef, hext⟩ := List.mem_filterMap.mp (List.mem_filter.mp he).1
  cases def' <;> simp_all [Definition.extension?]

theorem typeOf_name {d : TypeDef} {extensions : List TypeDef} {t : NamedType}
    (h : typeOf d extensions = .ok t) : t.name = d.name := by
  obtain ⟨_, _, h⟩ := bind_eq_ok.mp h
  rw [pure_eq_ok] at h
  rw [← h]

theorem has_typesOf {doc : Document} {own : List NamedType} (h : typesOf doc = .ok own) {n : String}
    (hn : n ∈ (doc.filterMap Definition.ownType?).map (·.name)) (hplain : n ∉ introspectionTypes) :
    ∃ u ∈ own, u.name = n := by
  obtain ⟨d, hd, rfl⟩ := List.mem_map.mp hn
  obtain ⟨t, ht, hdt⟩ := exists_mem_of_mapM h (List.mem_filter.mpr ⟨hd, by simpa using hplain⟩)
  refine ⟨t, ht, ?_⟩
  split at hdt
  · rw [pure_eq_ok] at hdt
    rw [← hdt]
    rfl
  · exact typeOf_name hdt

/-! ## The schema of a text -/

theorem ofText_parts {text : String} {schema : Schema} (h : ofText text = .ok schema) :
    ∃ doc own further, Document.read text = .ok doc ∧ doc.flaws = [] ∧ typesOf doc = .ok own ∧
      schema.types = withScalars own further := by
  unfold ofText at h
  split at h
  case h_2 => simp at h
  rename_i doc hread
  unfold ofDocument at h
  split at h
  case h_2 => simp at h
  rename_i hflaws
  obtain ⟨own, hown, h⟩ := bind_eq_ok.mp h
  obtain ⟨_, _, h⟩ := bind_eq_ok.mp h
  rw [pure_eq_ok] at h
  subst h
  exact ⟨doc, own, _, hread, hflaws, hown, rfl⟩

/-- A type of the schema of a text is a built-in scalar, or it is defined in a document without
flaws. -/
theorem ofText_origin {text : String} {schema : Schema} (h : ofText text = .ok schema)
    {t : NamedType} (ht : t ∈ schema.types) :
    (∃ name ∈ builtinScalars, t = builtinScalar name) ∨
      ∃ (doc : Document) (d : TypeDef), Document.read text = .ok doc ∧ doc.flaws = [] ∧
        Definition.type d ∈ doc ∧
        typeOf d ((doc.filterMap Definition.extension?).filter fun e => e.name = d.name) = .ok t := by
  obtain ⟨doc, own, further, hread, hflaws, hown, htypes⟩ := ofText_parts h
  rw [htypes] at ht
  rcases (withScalars_spec own further).2.1 t ht with ht | hbuiltin
  · rcases typesOf_origin hown ht with hbuiltin | ⟨d, hd, htype⟩
    · exact Or.inl hbuiltin
    · exact Or.inr ⟨doc, d, hread, hflaws, hd, htype⟩
  · exact Or.inl hbuiltin

/-- Every type that a type of a built schema names is in the schema or one in which schemas describe
themselves. -/
theorem ofText_closed {text : String} {schema : Schema} (h : ofText text = .ok schema)
    {t : NamedType} (ht : t ∈ schema.types) {n : String} (hn : n ∈ namedBy t) :
    (∃ u ∈ schema.types, u.name = n) ∨ n ∈ introspectionTypes := by
  obtain ⟨doc, own, further, hread, hflaws, hown, htypes⟩ := ofText_parts h
  rw [htypes] at ht ⊢
  obtain ⟨hin, horigin, huses⟩ := withScalars_spec own further
  rcases horigin t ht with ht | ⟨name, _, rfl⟩
  case inr => simp [builtinScalar, namedBy] at hn
  rcases typesOf_origin hown ht with ⟨name, _, rfl⟩ | ⟨d, hd, htype⟩
  case inl => simp [builtinScalar, namedBy] at hn
  by_cases hplain : n ∈ introspectionTypes
  · exact Or.inr hplain
  left
  obtain ⟨p, hp, hpn⟩ := List.mem_flatMap.mp (namedBy_typeOf htype hn)
  -- The definition and its extensions have passed the rule on unknown types.
  have hknown : n ∈ (doc.filterMap Definition.ownType?).map (·.name) ∨ n ∈ standardTypes := by
    rcases List.mem_cons.mp hp with rfl | hp
    · exact known_of_flawless hflaws hd rfl hpn
    · exact known_of_flawless hflaws (mem_of_mem_extensions hp) rfl hpn
  rcases hknown with hdefined | hstandard
  · obtain ⟨u, hu, hun⟩ := has_typesOf hown hdefined hplain
    exact ⟨u, hin hu, hun⟩
  · rcases List.mem_append.mp hstandard with hbuiltin | hintro
    · exact huses t ht n hn hbuiltin
    · exact absurd hintro hplain

end SchemaTypings.Schema
