import SchemaTypings.Proofs.DocumentNames
import SchemaTypings.Proofs.PlainOptions
import SchemaTypings.Proofs.QuietBlocks

/-!
# Declarations that open no comment

A steady declaration has its names and types on one line each, its own names begin with no comment,
and its literals open none. Without its notes, no line of it opens a comment.
-/

namespace SchemaTypings

open Sdl (Named)

/-! ## Identifiers -/

/-- Letters, digits, underscores and hyphens only. -/
def Spelled (s : String) : Prop := ∀ c ∈ s.toList, isSpelled c = true

theorem spelled_empty : Spelled "" := by
  intro c hc
  cases hc

theorem spelled_append {a b : String} (ha : Spelled a) (hb : Spelled b) : Spelled (a ++ b) := by
  unfold Spelled
  rw [String.toList_append, List.forall_mem_append]
  exact ⟨ha, hb⟩

theorem spelled_of_named {s : String} (h : Named s) : Spelled s :=
  fun c hc => isSpelled_of_isNamePart (Sdl.isNamePart_of_mem h c hc)

theorem spelled_ite {p : Prop} [Decidable p] {a b : String} (ha : Spelled a) (hb : Spelled b) :
    Spelled (if p then a else b) := by
  split
  · exact ha
  · exact hb

theorem spelled_applyParts (style : NameStyle) {name : String} (h : Spelled name) (drop : Bool) :
    Spelled (style.applyParts name drop) := by
  unfold Spelled NameStyle.applyParts
  rw [String.toList_ofList]
  exact NameStyle.isSpelled_convertParts h drop

theorem Spelled.oneLine {s : String} (h : Spelled s) : OneLine s := notMem_of_isSpelled h

theorem plainText_of_named {s : String} (h : Named s) : PlainText s := by
  refine ⟨oneLine_of_isName h, ?_⟩
  intro hmark
  have hslash : '/' ∈ s.toList := hmark.subset List.mem_cons_self
  exact absurd (spelled_of_named h _ hslash) (by decide)

namespace Code

theorem isSteady_of_isSpelled {c : Char} (h : isSpelled c = true) : isSteady c = true :=
  ascii_cases (P := fun c => isSpelled c = true → isSteady c = true) (by decide)
    (toNat_of_isSpelled h) h

theorem begins_of_spelled {s : String} (h : Spelled s) (hne : s.toList ≠ []) : Begins s.toList := by
  unfold Spelled at h
  cases hs : s.toList with
  | nil => exact absurd hs hne
  | cons c rest =>
    rw [hs, List.forall_mem_cons] at h
    exact isSteady_of_isSpelled h.1

theorem begins_of_named {s : String} (h : Named s) : Begins s.toList := by
  refine begins_of_spelled (spelled_of_named h) ?_
  intro hnil
  rw [Named, hnil] at h
  cases h

/-! ## Members -/

theorem oneLine_wrapText (wrappers : List Wrapper) {text : String} (h : OneLine text) :
    OneLine (wrapText wrappers text) := by
  induction wrappers with
  | nil => exact h
  | cons w wrappers ih =>
    have hname : OneLine w.name := by cases w <;> decide
    have hmarks : OneLine "<" ∧ OneLine ">" := by decide
    exact oneLine_append.mpr ⟨oneLine_append.mpr ⟨oneLine_append.mpr ⟨hname, hmarks.1⟩, ih⟩, hmarks.2⟩

theorem oneLine_readonlyWord (isReadonly : Bool) : OneLine (readonlyWord isReadonly) :=
  oneLine_ite (by decide) (by decide)

theorem begins_readonlyWord (isReadonly : Bool) {text : String} (h : Begins text.toList) :
    Begins (readonlyWord isReadonly ++ text).toList := by
  have hword : Begins "readonly ".toList := by decide
  exact begins_word hword h

theorem oneLine_attributeText {name type : String} (hname : OneLine name) (htype : OneLine type)
    (isOptional isReadonly : Bool) : OneLine (attributeText name type isOptional isReadonly) := by
  have hmark : OneLine (if isOptional then "?" else "") := oneLine_ite (by decide) (by decide)
  unfold attributeText
  simp +decide only [oneLine_append, oneLine_readonlyWord, hname, htype, hmark, and_true]

theorem quiet_attributeText {name type : String} (hname : Named name) (htype : OneLine type)
    (isOptional isReadonly : Bool) :
    Quiet (attributeText name type isOptional isReadonly).toList := by
  have hline := oneLine_attributeText (oneLine_of_isName hname) htype isOptional isReadonly
  refine quiet_of_begins hline ?_
  unfold attributeText
  simp only [String.append_assoc]
  exact begins_readonlyWord isReadonly (begins_left (begins_of_named hname))

def Reference.Lined (r : Reference) : Prop := OneLine r.render

theorem TypeExpr.oneLine_render {e : TypeExpr Reference} (h : e.core.Lined) :
    OneLine (e.render Reference.render) := oneLine_wrapText _ h

def Attribute.Steady (a : Attribute) : Prop := Named a.name ∧ a.type.type.core.Lined

theorem Attribute.Steady.quiet {a : Attribute} (h : a.Steady) : Quiet a.bare.text.toList :=
  quiet_attributeText h.1 (TypeExpr.oneLine_render h.2) _ _

theorem Typename.quiet {t : Typename} (h : OneLine t.name) : Quiet t.text.toList := by
  have hmark : OneLine (if t.isOptional then "?" else "") := oneLine_ite (by decide) (by decide)
  refine quiet_of_begins (show OneLine t.text from ?_) ?_
  · unfold text
    simp +decide only [oneLine_append, oneLine_readonlyWord, h, hmark, and_true]
  · unfold text
    simp only [String.append_assoc]
    exact begins_readonlyWord _ (begins_left (by decide))

def ScalarRow.Steady (r : ScalarRow) : Prop := PlainText r.name ∧ OneLine r.type.display

theorem not_opens_colon {name : List Char} (h : ¬['/', '*'] <:+: name) (after : List Char) :
    ¬Opens (name ++ ':' :: after) := by
  unfold Opens Text.trimStart
  induction name with
  | nil =>
    have hcolon : Text.isBlank ':' = false := by decide
    rw [List.nil_append, List.dropWhile_cons, hcolon]
    intro hopens
    exact absurd (List.cons_prefix_cons.mp hopens).1 (by decide)
  | cons c rest ih =>
    rw [List.cons_append, List.dropWhile_cons]
    split
    · exact ih fun hrest => h (hrest.trans (List.suffix_cons c rest).isInfix)
    · intro hopens
      -- The line begins here, so the mark would stand in the name, but for a slash before the colon.
      obtain ⟨hslash, hopens⟩ := List.cons_prefix_cons.mp hopens
      cases rest with
      | nil => exact absurd (List.cons_prefix_cons.mp hopens).1 (by decide)
      | cons d rest =>
        obtain ⟨hstar, _⟩ := List.cons_prefix_cons.mp hopens
        subst hslash hstar
        exact h (List.prefix_append ['/', '*'] rest).isInfix

theorem ScalarRow.Steady.quiet {r : ScalarRow} (h : r.Steady) : Quiet r.bare.text.toList := by
  obtain ⟨⟨hname, hplain⟩, htype⟩ := h
  have htext : r.bare.text = r.name ++ (": " ++ r.type.display ++ ";") := by
    rw [← String.append_assoc, ← String.append_assoc]
    rfl
  have hline : OneLine (r.name ++ (": " ++ r.type.display ++ ";")) := by
    simp +decide only [oneLine_append, hname, htype, and_true]
  unfold Quiet linesOf
  rw [htext, Text.cut_of_notMem hline, List.forall_mem_singleton, String.toList_append]
  have hcolon : (": " ++ r.type.display ++ ";").toList =
      ':' :: (" " ++ r.type.display ++ ";").toList := by simp
  rw [hcolon]
  exact not_opens_colon hplain _

def VariantField.Steady (f : VariantField) : Prop := Named f.name ∧ ∀ e ∈ f.type, e.core.Lined

theorem VariantField.Steady.oneLine {f : VariantField} (h : f.Steady) (isReadonly : Bool) :
    OneLine (f.text isReadonly) := by
  have hname := oneLine_of_isName h.1
  unfold VariantField.text
  split
  · next e he => exact oneLine_attributeText hname (TypeExpr.oneLine_render (h.2 e he)) _ _
  · exact oneLine_attributeText hname (by decide) _ _

theorem oneLine_variantText {v : Variant} (h : ∀ f ∈ v, f.Steady) (isReadonly : Bool) :
    OneLine (variantText isReadonly v) := by
  have hblank : OneLine " " := by decide
  have hfields : OneLine (" ".intercalate (v.map (VariantField.text isReadonly))) := by
    refine oneLine_intercalate hblank ?_
    intro text htext
    obtain ⟨f, hf, rfl⟩ := List.mem_map.mp htext
    exact (h f hf).oneLine isReadonly
  unfold variantText
  simp +decide only [oneLine_append, hfields, and_true]

theorem quiet_variantLines {variants : List Variant} (h : ∀ v ∈ variants, ∀ f ∈ v, f.Steady)
    (isReadonly : Bool) : ∀ text ∈ variantLines isReadonly variants, Quiet text.toList := by
  have hfirst : ∀ v : Variant, Begins (variantText isReadonly v).toList := by
    intro v
    unfold variantText
    exact begins_left (begins_left (by decide))
  intro text htext
  cases variants with
  | nil =>
    rw [List.mem_singleton.mp htext]
    decide
  | cons first rest =>
    rw [List.forall_mem_cons] at h
    rcases List.mem_cons.mp htext with rfl | htext
    · exact quiet_of_begins (oneLine_variantText h.1 isReadonly) (hfirst first)
    · obtain ⟨v, hv, rfl⟩ := List.mem_map.mp htext
      have hbar : OneLine "| " := by decide
      exact quiet_of_begins (oneLine_append.mpr ⟨hbar, oneLine_variantText (h.2 v hv) isReadonly⟩)
        (begins_left (by decide))

def EnumLine.Steady (l : EnumLine) : Prop :=
  OneLine l.member.key ∧ Begins l.member.key.toList ∧ Calm l.member.literal.toList

theorem EnumLine.Steady.quiet {l : EnumLine} (h : l.Steady) (form : EnumForm) :
    Quiet (l.bare.text form).toList := by
  obtain ⟨hkey, hbegins, hliteral⟩ := h
  have hprepend : ∀ {a : String}, OneLine a → Begins a.toList →
      Quiet (a ++ l.member.literal).toList := by
    intro a ha hfirst
    rw [String.toList_append]
    exact quiet_prepend ha hfirst hliteral
  have hmarked : ∀ {mark : String}, OneLine mark →
      Quiet (l.member.key ++ mark ++ l.member.literal).toList :=
    fun hmark => hprepend (oneLine_append.mpr ⟨hkey, hmark⟩) (begins_left hbegins)
  have hfixed : OneLine "| " ∧ OneLine ": " ∧ OneLine " = " := by decide
  cases form with
  | stringUnion => exact hprepend hfixed.1 (by decide)
  | constObject => exact hmarked hfixed.2.1
  | plain | numbered | constEnum => exact hmarked hfixed.2.2

/-! ## Declarations -/

def DeclarationBody.Steady : DeclarationBody → Prop
  | scalars rows | directiveMappings rows => ∀ r ∈ rows, r.Steady
  | object _ bases typename fields =>
    (∀ b ∈ bases, OneLine b) ∧ (∀ t ∈ typename, OneLine t.name) ∧ ∀ a ∈ fields, a.Steady
  | interface _ bases fields => (∀ b ∈ bases, OneLine b) ∧ ∀ a ∈ fields, a.Steady
  | input _ fields | arguments _ fields => ∀ a ∈ fields, a.Steady
  | oneOf _ variants => ∀ v ∈ variants, ∀ f ∈ v, f.Steady
  | union members _ => ∀ m ∈ members, m.Lined
  | enum _ _ lines => ∀ l ∈ lines, l.Steady

def Declaration.Steady (d : Declaration) : Prop := OneLine d.identifier ∧ d.body.Steady

theorem DeclarationBody.Steady.oneLine_bases {b : DeclarationBody} (h : b.Steady) :
    ∀ base ∈ b.bases, OneLine base := by
  cases b with
  | object _ _ _ _ | interface _ _ _ => exact h.1
  | _ => exact nofun

theorem DeclarationBody.Steady.oneLine_union {b : DeclarationBody} (h : b.Steady)
    (hunion : b.construct = .union) : ∀ m ∈ b.bare.members, OneLine m := by
  cases b with
  | union members openReadonly =>
    intro m hm
    rcases List.mem_append.mp hm with hm | hm
    · obtain ⟨r, hr, rfl⟩ := List.mem_map.mp hm
      exact h r hr
    · cases openReadonly with
      | none => cases hm
      | some isReadonly =>
        rw [List.mem_singleton.mp hm]
        cases isReadonly <;> decide
  | enum form _ _ => cases form <;> cases hunion
  | _ => cases hunion

theorem DeclarationBody.Steady.quiet_members {b : DeclarationBody} (h : b.Steady)
    (hunion : b.construct ≠ .union) : ∀ m ∈ b.bare.members, Quiet m.toList := by
  have hrows : ∀ rows : List ScalarRow, (∀ r ∈ rows, r.Steady) →
      ∀ m ∈ (rows.map ScalarRow.bare).map ScalarRow.text, Quiet m.toList := by
    intro rows hrows m hm
    rw [List.map_map] at hm
    obtain ⟨r, hr, rfl⟩ := List.mem_map.mp hm
    exact (hrows r hr).quiet
  have hattributes : ∀ fields : List Attribute, (∀ a ∈ fields, a.Steady) →
      ∀ m ∈ (fields.map Attribute.bare).map Attribute.text, Quiet m.toList := by
    intro fields hfields m hm
    rw [List.map_map] at hm
    obtain ⟨a, ha, rfl⟩ := List.mem_map.mp hm
    exact (hfields a ha).quiet
  cases b with
  | scalars rows | directiveMappings rows => exact hrows rows h
  | object _ _ typename fields =>
    refine List.forall_mem_append.mpr ⟨?_, hattributes fields h.2.2⟩
    intro m hm
    cases typename with
    | none => cases hm
    | some t =>
      rw [List.mem_singleton.mp hm]
      exact Typename.quiet (h.2.1 t rfl)
  | interface _ _ fields => exact hattributes fields h.2
  | input _ fields | arguments _ fields => exact hattributes fields h
  | oneOf isReadonly variants => exact quiet_variantLines h isReadonly
  | union _ _ => exact absurd rfl hunion
  | enum form futureProof lines =>
    refine List.forall_mem_append.mpr ⟨?_, ?_⟩
    · intro m hm
      rw [List.map_map] at hm
      obtain ⟨l, hl, rfl⟩ := List.mem_map.mp hm
      exact (h l hl).quiet form
    · intro m hm
      split at hm
      · rw [List.mem_singleton.mp hm]
        decide
      · cases hm

/-- **Without its notes, a steady declaration opens no comment.** -/
theorem Declaration.Steady.quiet {d : Declaration} (h : d.Steady) : Quiet d.bare.render.toList := by
  obtain ⟨hname, hbody⟩ := h
  have hrender : d.bare.render = d.bare.toBlock.body := rfl
  rw [hrender, toBlock_bare]
  refine Block.quiet_body ⟨hname, ⟨d.body.keyword, rfl⟩, hbody.oneLine_bases⟩ ?_ ?_
  · exact hbody.oneLine_union
  · exact hbody.quiet_members

end Code

end SchemaTypings
