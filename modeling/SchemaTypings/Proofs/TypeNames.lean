import SchemaTypings.Proofs.FieldNames

/-!
# The names of types

Wherever a schema comes from, no two of its types share a name.
-/

open SchemaTypings.Outcome SchemaTypings.Sdl

namespace SchemaTypings

namespace Schema

/-! ## Added scalars -/

theorem names_snoc {types : List NamedType} (h : (types.map NamedType.name).Nodup) {t : NamedType}
    (hnew : ∀ u ∈ types, u.name ≠ t.name) : ((types ++ [t]).map NamedType.name).Nodup := by
  rw [List.map_append, List.nodup_append]
  refine ⟨h, by simp, ?_⟩
  rintro _ hold _ hadded rfl
  obtain ⟨u, hu, hname⟩ := List.mem_map.mp hold
  rw [List.map_singleton, List.mem_singleton] at hadded
  exact hnew u hu (hname.trans hadded)

theorem names_addScalar {types : List NamedType} (h : (types.map NamedType.name).Nodup)
    (name : String) : ((addScalar types name).map NamedType.name).Nodup := by
  unfold addScalar
  split
  · exact h
  · next hnew =>
    rw [List.any_eq_true, not_exists] at hnew
    exact names_snoc h fun u hu hname => hnew u ⟨hu, decide_eq_true hname⟩

theorem mem_addScalar {types : List NamedType} {name : String} {t : NamedType}
    (h : t ∈ addScalar types name) : t ∈ types ∨ t.name = name := by
  unfold addScalar at h
  split at h
  · exact Or.inl h
  · rcases List.mem_append.mp h with h | h
    · exact Or.inl h
    · exact Or.inr (List.mem_singleton.mp h ▸ rfl)

/-- Names that stay distinct while others are left out, which a document defines itself. -/
structure Apart (others : List String) (types : List NamedType) : Prop where
  distinct : (types.map NamedType.name).Nodup
  apart : ∀ t ∈ types, t.name ∉ others

theorem Apart.addBehind {defined others : List String} (hothers : others ⊆ defined)
    {types : List NamedType} (h : Apart others types) (name : String) :
    Apart others (addBehind defined types name) := by
  unfold Schema.addBehind
  induction scalarsBehind name generalizing types with
  | nil => exact h
  | cons scalar rest ih =>
    have hstep : Apart others
        (if defined.contains scalar then types else addScalar types scalar) := by
      split
      · exact h
      · next hnew =>
        refine ⟨names_addScalar h.distinct scalar, fun t ht => ?_⟩
        rcases mem_addScalar ht with ht | hname
        · exact h.apart t ht
        · rw [hname]
          exact fun hmem => hnew (List.contains_iff_mem.mpr (hothers hmem))
    exact ih hstep

theorem Apart.foldl_addBehind {defined others : List String} (hothers : others ⊆ defined)
    {types : List NamedType} (h : Apart others types) (names : List String) :
    Apart others (names.foldl (Schema.addBehind defined) types) := by
  induction names generalizing types with
  | nil => exact h
  | cons name names ih => exact ih (h.addBehind hothers name)

theorem apart_ordered {defined : List String} {own types : List NamedType}
    (hown : (own.map NamedType.name).Nodup) (hdefined : own.map NamedType.name ⊆ defined)
    (h : Apart (own.map NamedType.name) types) :
    Apart [] (own.foldl
      (fun types t => (namedBy t).foldl (Schema.addBehind defined) (types ++ [t])) types) := by
  induction own generalizing types with
  | nil => exact h
  | cons t own ih =>
    rw [List.map_cons, List.nodup_cons] at hown
    have hrest : own.map NamedType.name ⊆ defined :=
      fun n hn => hdefined (List.mem_cons_of_mem _ hn)
    refine ih hown.2 hrest (Apart.foldl_addBehind hrest ⟨?_, ?_⟩ _)
    -- The type is new: its name is none of those that went before.
    · refine names_snoc h.distinct fun u hu hname => h.apart u hu ?_
      rw [hname]
      exact List.mem_cons_self
    · intro u hu hmem
      rcases List.mem_append.mp hu with hu | hu
      · exact h.apart u hu (List.mem_cons_of_mem _ hmem)
      · rw [List.mem_singleton.mp hu] at hmem
        exact hown.1 hmem

theorem names_withScalars {own : List NamedType} (h : (own.map NamedType.name).Nodup)
    (further : List String) : ((withScalars own further).map NamedType.name).Nodup := by
  rw [withScalars_eq]
  have hstart : Apart (own.map NamedType.name) [] := ⟨List.nodup_nil, by simp⟩
  have hordered := apart_ordered h (List.Subset.refl _) hstart
  exact (hordered.foldl_addBehind (List.nil_subset _) further).distinct

/-! ## Documents -/

theorem names_typesOf {doc : Document} (hflaws : doc.flaws = []) {own : List NamedType}
    (h : typesOf doc = .ok own) : (own.map NamedType.name).Nodup := by
  have hrule : ruleTypeNames doc = [] := rule_nil hflaws (by simp [rules])
  have hdefs := nodup_of_repeated (List.map_eq_nil_iff.mp hrule)
  unfold typesOf at h
  simp only at h
  have hnames : ∀ {defs : List TypeDef} {ts : List NamedType},
      List.Forall₂ (fun d t => (if builtinScalars.contains d.name then
        (return builtinScalar d.name : Except SchemaError NamedType)
        else typeOf d ((doc.filterMap Definition.extension?).filter fun e => e.name = d.name)) =
          .ok t) defs ts → ts.map NamedType.name = defs.map (·.name) := by
    intro defs ts hall
    induction hall with
    | nil => rfl
    | cons hd _ ih =>
      rw [List.map_cons, List.map_cons, ih]
      split at hd
      · rw [pure_eq_ok] at hd
        rw [← hd]
        rfl
      · rw [typeOf_name hd]
  rw [hnames (mapM_eq_ok.mp h)]
  exact hdefs.sublist (List.filter_sublist.map _)

theorem names_ofText {text : String} {s : Schema} (h : ofText text = .ok s) :
    (s.types.map NamedType.name).Nodup := by
  obtain ⟨doc, own, further, _, hflaws, hown, htypes⟩ := ofText_parts h
  rw [htypes]
  exact names_withScalars (names_typesOf hflaws hown) further

end Schema

/-! ## Descriptions -/

namespace Introspection

theorem typeOf?_name {types : Table String Listed} {listed : Listed} {t : NamedType}
    (h : typeOf? types listed = .ok (some t)) : t.name = listed.name := by
  unfold typeOf? at h
  split at h
  · cases h
    rfl
  · split at h
    · cases h
    · obtain ⟨body, _, h⟩ := bind_eq_ok.mp h
      rw [pure_eq_ok] at h
      cases h
      rfl

theorem names_schema {description : Value} {s : Schema} (h : schema description = .ok s) :
    (s.types.map NamedType.name).Nodup := by
  obtain ⟨table, own, _, hnodup, hown, htypes⟩ := schema_types h
  have hsub : ∀ {ls : List Listed} {ts : List (Option NamedType)},
      List.Forall₂ (fun l t => typeOf? table l = .ok t) ls ts →
        ((ts.filterMap id).map NamedType.name).Sublist (ls.map Listed.name) := by
    intro ls ts hall
    induction hall with
    | nil => exact .slnil
    | @cons l t _ _ hl _ ih =>
      cases t with
      | none => exact ih.cons _
      | some t =>
        rw [List.filterMap_cons_some (f := id) rfl, List.map_cons, List.map_cons, typeOf?_name hl]
        exact ih.cons_cons _
  rw [htypes]
  have hown := hnodup.sublist (hsub (mapM_eq_ok.mp hown))
  exact Schema.names_addScalar (Schema.names_addScalar hown "String") "Boolean"

end Introspection

/-! ## All schemas -/

namespace Schema

theorem names_changeType {s s' : Schema} {name : String}
    {f : NamedType → Except ChangeFault NamedType}
    (hf : ∀ t t', f t = .ok t' → t'.name = t.name) (h : s.changeType name f = .ok s') :
    s'.types.map NamedType.name = s.types.map NamedType.name := by
  unfold changeType at h
  cases hfind : s.find? name with
  | none =>
    rw [hfind] at h
    cases h
  | some found =>
    rw [hfind] at h
    obtain ⟨changed, hchanged, h⟩ := bind_eq_ok.mp h
    rw [pure_eq_ok] at h
    subst h
    have hfound : found.name = name := by simpa using List.find?_some hfind
    have hname : changed.name = name := (hf found changed hchanged).trans hfound
    rw [List.map_map]
    refine List.map_congr_left fun t _ => ?_
    rw [Function.comp_apply]
    split
    · next ht => rw [hname, ht]
    · rfl

/-- **No two types of a schema share a name.** -/
theorem Built.typeNames_nodup {s : Schema} (h : s.Built) :
    (s.types.map NamedType.name).Nodup := by
  induction h with
  | ofText h => exact names_ofText h
  | described h => exact Introspection.names_schema h
  | markedOneOf _ h ih =>
    rw [names_changeType ?_ h]
    · exact ih
    · intro t t' h
      split at h <;> cases h <;> rfl
  | storedDefault _ h ih =>
    rw [names_changeType ?_ h]
    · exact ih
    · intro t t' h
      split at h
      · split at h <;> cases h
        rfl
      · split at h <;> cases h
        rfl
      · split at h <;> cases h
        rfl
      · cases h
  | storedValue _ h ih =>
    rw [names_changeType ?_ h]
    · exact ih
    · intro t t' h
      split at h
      · obtain ⟨values, _, h⟩ := bind_eq_ok.mp h
        split at h
        · cases h
        · cases h
          rfl
      · cases h

end Schema

end SchemaTypings
