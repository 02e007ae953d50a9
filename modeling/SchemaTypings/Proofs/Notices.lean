import SchemaTypings.Proofs.Bare
import SchemaTypings.Proofs.EnumKeys
import SchemaTypings.Proofs.Layout
import SchemaTypings.Proofs.OneOf
import SchemaTypings.Proofs.Outline

/-!
# Notices of deprecations

A notice stands in a comment right above its member, below the description if there is one. Fields of an
input of which one field is given have no comments of their own, so their notices stand nowhere.
-/

open SchemaTypings.Outcome

namespace SchemaTypings.Code

/-! ## A notice in a comment -/

def noticeLines (reason : String) : List Line := commentLines ("@deprecated " ++ reason).toList

theorem descriptionLines_ok {description : Note} {describe : Bool} {lines : List String}
    (h : descriptionLines description describe = .ok lines) : lines = [] ∨ ∃ s, lines = [s] := by
  unfold descriptionLines at h
  split at h
  · exact Or.inl (Except.ok.inj h).symm
  · split at h
    · exact Or.inr ⟨_, (Except.ok.inj h).symm⟩
    · cases h

theorem note?_ok {description deprecation : Note} {describe : Bool} {note : Option String}
    (h : note? description deprecation describe = .ok note) {reason : String}
    (hsaid : Note.said? deprecation = some reason) :
    ∃ text, note = some text ∧ text.toList ≠ [] ∧
      ∃ above, commentLines text.toList = above ++ noticeLines reason := by
  obtain ⟨lines, hlines, h⟩ := bind_eq_ok.mp h
  rw [hsaid, pure_eq_ok] at h
  rcases descriptionLines_ok hlines with rfl | ⟨s, rfl⟩
  · refine ⟨"@deprecated " ++ reason, ?_, by simp, [], (List.nil_append _).symm⟩
    simpa using h.symm
  · have htext : ("\n".intercalate [s, "@deprecated " ++ reason]).toList =
        s.toList ++ '\n' :: '@' :: ("deprecated " ++ reason).toList := by
      simp
    refine ⟨"\n".intercalate [s, "@deprecated " ++ reason], h.symm, ?_, ?_⟩
    · rw [htext]
      simp
    · rw [htext]
      have hat : '@' ≠ '\n' := by decide
      have habove := commentLines_above s.toList hat ("deprecated " ++ reason).toList
      simpa [noticeLines] using habove

/-- One comment stands right above a member, and it ends with the lines of a notice. -/
def HasNotice (block member reason : String) : Prop :=
  ∃ before above after, linesOf block.toList =
      before ++ (framed (above ++ noticeLines reason)).map (shift 2) ++
        linesOf (indentChars 2 member.toList ++ after) ∧
    ∀ line ∈ above ++ noticeLines reason, Unclosed line

/-- What is said of a member's deprecation is said in the block. -/
def Kept (block member : String) (deprecation : Note) : Prop :=
  ∀ reason, Note.said? deprecation = some reason → HasNotice block member reason

theorem kept_of_member {b : Block} (hlisted : b.construct ≠ .union) {c : Scope} {text : String}
    {note : Option String} {description deprecation : Note}
    (hnote : c.comment description deprecation = .ok note)
    (hm : withComment text note ∈ b.members) : Kept b.render text deprecation := by
  intro reason hsaid
  obtain ⟨note, rfl, hne, above, hlines⟩ := note?_ok hnote hsaid
  obtain ⟨before, after, hblock⟩ := Block.exists_member hlisted hm
  have hmember : (withComment text (some note)).toList =
      commentChars note.toList ++ '\n' :: text.toList := by
    rw [toList_withComment, commentAbove, if_neg (by simpa using hne), List.append_assoc]
    rfl
  refine ⟨linesOf before, above, after, ?_, ?_⟩
  -- A line break stands on either side of the member, so its lines are lines of the block.
  · calc linesOf b.render.toList
        = linesOf (before ++ '\n' :: (indentChars 2 (commentChars note.toList) ++
            '\n' :: (indentChars 2 text.toList ++ after))) := by
          rw [hblock, hmember, indent_append, List.append_assoc, List.cons_append]
      _ = linesOf before ++ (linesOf (indentChars 2 (commentChars note.toList)) ++
            linesOf (indentChars 2 text.toList ++ after)) := by
          unfold linesOf
          rw [Text.cut_append, Text.cut_append]
      _ = _ := by
          rw [linesOf_indent, linesOf_comment (by simpa using hne), hlines, List.append_assoc]
  · intro line hline
    rw [← hlines] at hline
    exact (mem_commentLines hline).2

namespace Scope

variable {c : Scope}

/-- The notices that a block keeps, and those that it does not know of. -/
def KeepsNotices (c : Scope) (block : String) : Entry → Prop
  | .type t =>
    match t.body with
    | .object _ fields | .interface _ fields =>
      ∀ f ∈ fields, ∃ a, c.outputMember f = .ok a ∧ Kept block a.bare.text f.deprecation
    | .enum (.ok values) =>
      ∀ v ∈ values, ∃ m ∈ c.settings.enumMembers t.name values, m.name = v.name ∧
        Kept block (EnumLine.text c.settings.enumForm { member := m, comment := none }) v.deprecation
    | .input flag fields =>
      if t.isOneOf then
        ∀ others, others.map InputValue.bare = fields.map InputValue.bare →
          c.declarationsFor { t with body := .input flag others } = c.declarationsFor t
      else ∀ i ∈ fields, ∃ a, c.inputMember i = .ok a ∧ Kept block a.bare.text i.deprecation
    | _ => True
  | .arguments _ f =>
    ∀ i ∈ f.arguments, ∃ a, c.inputMember i = .ok a ∧ Kept block a.bare.text i.deprecation
  | _ => True

theorem kept_outputs {b : Block} (hlisted : b.construct ≠ .union) {fields : List Field}
    {members : List Attribute} (h : c.OutputMembers fields members)
    (hsub : members.map Attribute.text ⊆ b.members) :
    ∀ f ∈ fields, ∃ a, c.outputMember f = .ok a ∧ Kept b.render a.bare.text f.deprecation := by
  intro f hf
  obtain ⟨a, ha, _, hmember⟩ := exists_of_mem_left h hf
  obtain ⟨_, _, hnote, _⟩ := outputMember_ok hmember
  exact ⟨a, hmember, kept_of_member hlisted hnote (hsub (List.mem_map_of_mem ha))⟩

theorem kept_inputs {b : Block} (hlisted : b.construct ≠ .union) {inputs : List InputValue}
    {members : List Attribute} (h : c.InputMembers inputs members)
    (hsub : members.map Attribute.text ⊆ b.members) :
    ∀ i ∈ inputs, ∃ a, c.inputMember i = .ok a ∧ Kept b.render a.bare.text i.deprecation := by
  intro i hi
  obtain ⟨a, ha, _, hmember⟩ := exists_of_mem_left h hi
  exact ⟨a, hmember, kept_of_member hlisted (inputMember_ok hmember).1
    (hsub (List.mem_map_of_mem ha))⟩

/-- No note of a field reaches an input of which one field is given. -/
theorem declarationsFor_notes {t : NamedType} {flag : Bool} {fields others : List InputValue}
    (hbody : t.body = .input flag fields) (hone : t.isOneOf = true)
    (hothers : others.map InputValue.bare = fields.map InputValue.bare) :
    c.declarationsFor { t with body := .input flag others } = c.declarationsFor t := by
  -- A variant is the same for the bare fields, in which no note is left.
  have hvariants : ∀ fields : List InputValue, fields.mapM (c.variant t.name fields) =
      (fields.map InputValue.bare).mapM (c.bare.variant t.name (fields.map InputValue.bare)) := by
    intro fields
    rw [List.mapM_map]
    exact congrArg (fields.mapM ·) (funext fun i => (variant_bare c t.name fields i).symm)
  have hone' : NamedType.isOneOf { t with body := .input flag others } = true := by
    rw [← hone]
    unfold NamedType.isOneOf
    rw [hbody]
  rw [declarationsFor_oneOf hbody hone, declarationsFor_oneOf rfl hone', hvariants, hvariants,
    hothers]
  rfl

theorem enumMembers_deprecations (s : Settings) (enum : String) (values : List EnumValue) :
    (s.enumMembers enum values).map (fun m => (m.name, m.deprecation)) =
      values.map fun v => (v.name, v.deprecation) := by
  unfold Settings.enumMembers
  generalize hkeys : memberKeys s [] (values.map EnumValue.name) = keys
  have hlength : values.length ≤ keys.length := by
    rw [← hkeys, memberKeys_length, List.length_map]
  have hvalues : values = ((values.zip keys).zipIdx.map Prod.fst).map Prod.fst := by
    rw [List.zipIdx_map_fst, List.map_fst_zip hlength]
  conv_rhs => rw [hvalues]
  rw [List.map_map, List.map_map, List.map_map]
  rfl

theorem kept_values {b : Block} (hlisted : b.construct ≠ .union) {form : EnumForm} {enum : String}
    {values : List EnumValue} {lines : List EnumLine}
    (h : c.EnumLines (c.settings.enumMembers enum values) lines)
    (hsub : lines.map (EnumLine.text form) ⊆ b.members) :
    ∀ v ∈ values, ∃ m ∈ c.settings.enumMembers enum values, m.name = v.name ∧
      Kept b.render (EnumLine.text form { member := m, comment := none }) v.deprecation := by
  intro v hv
  have hpair : (v.name, v.deprecation) ∈
      (c.settings.enumMembers enum values).map fun m => (m.name, m.deprecation) := by
    rw [enumMembers_deprecations]
    exact List.mem_map.mpr ⟨v, hv, rfl⟩
  obtain ⟨m, hm, hpair⟩ := List.mem_map.mp hpair
  obtain ⟨hname, hdeprecation⟩ := Prod.mk.inj hpair
  obtain ⟨l, hl, rfl, hline⟩ := exists_of_mem_left h hm
  refine ⟨l.member, hm, hname, ?_⟩
  rw [← hdeprecation]
  exact kept_of_member hlisted (enumLine_ok hline).2.1 (hsub (List.mem_map.mpr ⟨l, hl, rfl⟩))

theorem keepsNotices {e : Entry} {d : Declaration} (h : c.Declares e d) :
    c.KeepsNotices d.render e := by
  cases h with
  | scalars | directiveMappings => trivial
  | @enum t values lines hbody hlines =>
    simp only [KeepsNotices, hbody]
    refine kept_values ?_ hlines (List.subset_append_left _ _)
    -- No form of an enum is laid out as a union of object types is.
    intro hunion
    have hconstruct : (DeclarationBody.enum c.settings.enumForm c.settings.futureProofEnums
        lines).construct = .union := hunion
    cases hform : c.settings.enumForm <;> rw [hform] at hconstruct <;> cases hconstruct
  | object hbody hmembers =>
    simp only [KeepsNotices, hbody]
    exact kept_outputs (by rintro ⟨⟩) hmembers (List.subset_append_right _ _)
  | interface hbody hmembers =>
    simp only [KeepsNotices, hbody]
    exact kept_outputs (by rintro ⟨⟩) hmembers (List.Subset.refl _)
  | arguments hmembers => exact kept_inputs (by rintro ⟨⟩) hmembers (List.Subset.refl _)
  | union hbody _ =>
    simp only [KeepsNotices, hbody]
  | oneOf hbody hone _ =>
    simp only [KeepsNotices, hbody, hone, if_true]
    exact fun others => declarationsFor_notes hbody hone
  | input hbody hone hmembers =>
    simp only [KeepsNotices, hbody, hone]
    exact kept_inputs (by rintro ⟨⟩) hmembers (List.Subset.refl _)

theorem keepsNotices_of_writes {e : Entry} {block : String} (h : c.Writes e block) :
    c.KeepsNotices block e := by
  cases h with
  | declaration hd => exact keepsNotices hd
  | reexport => trivial

end Scope

/-- **A notice stands right above its member, unless it is one of a field of an input of which one
field is given.** -/
theorem emit_notices {schema : Schema} {s : Settings} {out : Output} (hbuilt : schema.Built)
    (h : emit schema s = .ok out) :
    ∃ p : RunParts schema s, List.Forall₂ (fun e block => p.scope.Writes e block ∧
      p.scope.KeepsNotices block e) (outline schema s) out.content := by
  obtain ⟨e, he, hout⟩ := emission_of_emit h
  obtain ⟨p, rfl⟩ := exists_parts he
  refine ⟨p, (p.writes hbuilt hout).imp ?_⟩
  exact fun e block hwrites => ⟨hwrites, Scope.keepsNotices_of_writes hwrites⟩

/-- A notice at each place that can have one. -/
def noticedText : String :=
  "type Item \x7bname(short: Int @deprecated(reason: \"long\")): ID @deprecated(reason: \"old\")\x7d " ++
  "enum Color \x7bRED @deprecated(reason: \"faded\")\x7d " ++
  "input Key \x7bid: ID @deprecated(reason: \"*/ closed\")\x7d " ++
  "input One @oneOf \x7ba: Int @deprecated(reason: \"lost\") b: Int\x7d"

def noticedOptions : Options := Options.ofTable [("disable_descriptions", .bool true)]

theorem emit_notices_everywhere : ∃ schema s out, Schema.ofText noticedText = .ok schema ∧
    Settings.ofOptions noticedOptions = .ok s ∧ schema.Built ∧ emit schema s = .ok out ∧
    (outline schema s).map Entry.label =
      ["scalars", "Item", "Item.name", "Color", "Key", "One"] ∧
    ∃ p : RunParts schema s, List.Forall₂ (fun e block => p.scope.Writes e block ∧
      p.scope.KeepsNotices block e) (outline schema s) out.content := by
  have hruns : runs noticedText noticedOptions (fun schema s =>
      decide ((outline schema s).map Entry.label =
        ["scalars", "Item", "Item.name", "Color", "Key", "One"])) = true := by
    decide +kernel
  obtain ⟨schema, s, out, hschema, hsettings, hemit, hlabels⟩ := exists_of_runs hruns
  exact ⟨schema, s, out, hschema, hsettings, .ofText hschema, hemit, of_decide_eq_true hlabels,
    emit_notices (.ofText hschema) hemit⟩

end SchemaTypings.Code
