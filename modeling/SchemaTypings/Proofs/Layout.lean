import SchemaTypings.Code.Declaration
import SchemaTypings.Proofs.Lines

/-!
# The layout of a block

A union stands on one line. Every other block has its members on lines of their own, between a head and
a tail that say nothing about them.
-/

namespace SchemaTypings

theorem Text.exists_around {c : Char} {sep p : List Char} {ps : List (List Char)} (h : p ∈ ps) :
    ∃ before after, c :: join (sep ++ [c]) ps = before ++ c :: (p ++ after) := by
  unfold join
  induction ps with
  | nil => cases h
  | cons q qs ih =>
    by_cases hrest : qs = []
    · subst hrest
      rw [List.mem_singleton.mp h, List.intercalate_singleton]
      exact ⟨[], [], by simp⟩
    · rw [List.intercalate_cons_of_ne_nil hrest]
      rcases List.mem_cons.mp h with rfl | h
      · exact ⟨[], sep ++ [c] ++ (sep ++ [c]).intercalate qs, by simp⟩
      · obtain ⟨before, after, hqs⟩ := ih h
        refine ⟨c :: q ++ sep ++ before, after, ?_⟩
        simpa using hqs

namespace Code

namespace Block

def basesText (b : Block) : String :=
  if b.keyword = "type" then " = " ++ String.join (b.bases.map (· ++ " & "))
  else if b.bases.isEmpty then " "
  else (if b.keyword = "interface" then " extends " else " implements ") ++
    ", ".intercalate b.bases ++ " "

/-- A block up to the line of its first member. -/
def head (b : Block) : String :=
  match b.construct with
  | .scalars | .directiveMappings | .object | .interface | .input | .arguments =>
    b.exportWord ++ b.keyword ++ " " ++ b.name ++ b.basesText ++ opening
  | .oneOfInput | .enumAsType | .union => b.exportWord ++ "type " ++ b.name ++ " ="
  | .enum => b.exportWord ++ (if b.isConst then "const " else "") ++ "enum " ++ b.name ++ " " ++ opening
  | .enumAsConst => b.exportWord ++ "const " ++ b.name ++ " = " ++ opening

/-- What stands behind each member but the last. -/
def separator (b : Block) : String :=
  match b.construct with
  | .enum | .enumAsConst => ","
  | _ => ""

/-- A block from the end of its last member. -/
def tail (b : Block) : String :=
  match b.construct with
  | .scalars | .directiveMappings | .object | .interface | .input | .arguments =>
    "\n" ++ closing ++ (if b.keyword = "type" then ";" else "")
  | .oneOfInput | .enumAsType | .union => ";"
  | .enum => "\n" ++ closing ++ (if b.isConst then ";" else "")
  | .enumAsConst =>
    "\n" ++ closing ++ " as const;\n\n" ++ b.exportWord ++ "type " ++ b.name ++ " = typeof " ++
      b.name ++ "[keyof typeof " ++ b.name ++ "];"

def memberChars (b : Block) : List Char :=
  Text.join (b.separator.toList ++ ['\n']) (b.members.map fun m => indentChars 2 m.toList)

theorem toList_indented (b : Block) (sep : String) :
    (b.indented sep).toList =
      Text.join sep.toList (b.members.map fun m => indentChars 2 m.toList) := by
  unfold indented
  rw [String.toList_intercalate, List.map_map]
  refine congrArg _ (List.map_congr_left fun m _ => ?_)
  simp [indent]

def Listed (b : Block) : Prop :=
  b.construct ≠ .union ∧ (b.construct.layout = "block" → b.members ≠ [])

theorem listed_of_mem {b : Block} (hlisted : b.construct ≠ .union) {m : String}
    (hm : m ∈ b.members) : b.Listed := ⟨hlisted, fun _ => List.ne_nil_of_mem hm⟩

theorem body_eq {b : Block} (hlisted : b.Listed) :
    b.body = b.head ++ "\n" ++ b.indented (b.separator ++ "\n") ++ b.tail := by
  obtain ⟨hlisted, hne⟩ := hlisted
  have hnone : "" ++ "\n" = "\n" := rfl
  have hcomma : "," ++ "\n" = ",\n" := rfl
  have hopen : " =\n" = " =" ++ "\n" := rfl
  unfold body head separator tail
  cases hconstruct : b.construct with
  | union => exact absurd hconstruct hlisted
  | oneOfInput | enumAsType => simp only [variantsText, hopen, hnone, String.append_assoc]
  | enum => simp only [enumText, hcomma, String.append_assoc]
  | enumAsConst => simp only [constText, hcomma, String.append_assoc]
  | scalars | directiveMappings | object | interface | input | arguments =>
    have hmembers : b.members.isEmpty = false := by
      rw [hconstruct] at hne
      simpa using hne rfl
    simp only [fieldsText, hmembers, hnone, basesText, Bool.false_eq_true, if_false,
      String.append_assoc]

theorem toList_body {b : Block} (hlisted : b.Listed) :
    b.body.toList = b.head.toList ++ '\n' :: b.memberChars ++ b.tail.toList := by
  rw [body_eq hlisted]
  simp [toList_indented, memberChars]

theorem exists_head (b : Block) : ∃ below, b.body = b.head ++ below := by
  have hspace : " = " = " =" ++ " " := rfl
  by_cases hlisted : b.Listed
  · exact ⟨"\n" ++ b.indented (b.separator ++ "\n") ++ b.tail, by
      simp only [body_eq hlisted, String.append_assoc]⟩
  · unfold head body
    cases hconstruct : b.construct with
    | union =>
      refine ⟨" " ++ " | ".intercalate b.members ++ ";", ?_⟩
      simp only [unionText, hspace, String.append_assoc]
    | oneOfInput | enumAsType | enum | enumAsConst =>
      refine absurd ⟨?_, ?_⟩ hlisted <;> simp [hconstruct, Construct.layout]
    | scalars | directiveMappings | object | interface | input | arguments =>
      have hnone : b.members.isEmpty = true := by
        rw [Listed, hconstruct] at hlisted
        simpa [Construct.layout] using hlisted
      refine ⟨closing ++ (if b.keyword = "type" then ";" else ""), ?_⟩
      simp only [fieldsText, hnone, basesText, if_true, String.append_assoc]

theorem basesText_starts (b : Block) : [' '] <+: b.basesText.toList := by
  unfold basesText
  split
  · exact ⟨"= ".toList ++ (String.join (b.bases.map (· ++ " & "))).toList, by simp⟩
  · split
    · exact List.prefix_refl _
    · split <;> simp [List.cons_prefix_cons]

theorem name_infix_head (b : Block) : ' ' :: (b.name.toList ++ [' ']) <:+: b.head.toList := by
  obtain ⟨bases, hbases⟩ := b.basesText_starts
  unfold head
  cases b.construct with
  | scalars | directiveMappings | object | interface | input | arguments =>
    exact ⟨(b.exportWord ++ b.keyword).toList, bases ++ opening.toList, by simp [← hbases]⟩
  | oneOfInput | enumAsType | union => exact ⟨(b.exportWord ++ "type").toList, ['='], by simp⟩
  | enum =>
    refine ⟨(b.exportWord ++ (if b.isConst then "const " else "") ++ "enum").toList,
      opening.toList, by simp⟩
  | enumAsConst =>
    exact ⟨(b.exportWord ++ "const").toList, ("= " ++ opening).toList, by simp⟩

theorem infix_basesText {b : Block} {base : String} (h : base ∈ b.bases) :
    base.toList <:+: b.basesText.toList := by
  have hne : b.bases.isEmpty = false := by simpa using List.ne_nil_of_mem h
  unfold basesText
  split
  · have hpiece : (base ++ " & ").toList <:+: (String.join (b.bases.map (· ++ " & "))).toList := by
      rw [String.toList_join]
      exact List.infix_of_mem_flatten (List.mem_map_of_mem (List.mem_map_of_mem h))
    rw [String.toList_append] at hpiece ⊢
    exact ((List.prefix_append ..).isInfix.trans hpiece).trans (List.suffix_append ..).isInfix
  · have hpiece := Text.infix_join (", ".toList) (List.mem_map_of_mem (f := String.toList) h)
    rw [Text.join, ← String.toList_intercalate] at hpiece
    rw [if_neg (by simp [hne]), String.toList_append, String.toList_append]
    exact hpiece.trans (List.infix_append ..)

theorem infix_head_of_base {b : Block} (hlayout : b.construct.layout = "block") {base : String}
    (h : base ∈ b.bases) : base.toList <:+: b.head.toList := by
  refine (infix_basesText h).trans ?_
  unfold head
  cases hconstruct : b.construct with
  | scalars | directiveMappings | object | interface | input | arguments =>
    simp only [String.toList_append]
    exact List.infix_append ..
  | oneOfInput | enumAsType | union | enum | enumAsConst =>
    rw [hconstruct] at hlayout
    exact absurd hlayout (by decide)

theorem exists_member {b : Block} (hlisted : b.construct ≠ .union) {m : String}
    (hm : m ∈ b.members) :
    ∃ before after, b.render.toList = before ++ '\n' :: (indentChars 2 m.toList ++ after) := by
  have hm' := List.mem_map_of_mem (f := fun m => indentChars 2 m.toList) hm
  obtain ⟨before, after, hmembers⟩ : ∃ before after, '\n' :: b.memberChars =
      before ++ '\n' :: (indentChars 2 m.toList ++ after) := Text.exists_around hm'
  refine ⟨commentAbove b.comment ++ b.head.toList ++ before, after ++ b.tail.toList, ?_⟩
  unfold render
  rw [toList_withComment, toList_body (listed_of_mem hlisted hm), hmembers]
  simp only [List.append_assoc, List.cons_append]

theorem infix_of_union {b : Block} (hunion : b.construct = .union) {m : String}
    (hm : m ∈ b.members) : m.toList <:+: b.render.toList := by
  have hpiece := Text.infix_join (" | ".toList) (List.mem_map_of_mem (f := String.toList) hm)
  rw [Text.join, ← String.toList_intercalate] at hpiece
  refine hpiece.trans ?_
  unfold render body unionText
  rw [hunion, toList_withComment]
  simp only [String.toList_append]
  exact (List.infix_append ..).trans (List.suffix_append ..).isInfix

end Block

/-! ## Declarations -/

namespace Declaration

/-- A member as it stands in its declaration, two blanks in if it has lines of its own. -/
def placed (d : Declaration) (member : String) : List Char :=
  if d.body.construct = .union then member.toList else indentChars 2 member.toList

/-- A text names a declaration between blanks, and has its bases and all of its members. -/
structure Shows (d : Declaration) (text : String) : Prop where
  name : ' ' :: (d.identifier.toList ++ [' ']) <:+: text.toList
  bases : ∀ b ∈ d.body.bases, b.toList <:+: text.toList
  members : ∀ m ∈ d.body.members, d.placed m <:+: text.toList

theorem layout_of_base {body : DeclarationBody} {b : String} (h : b ∈ body.bases) :
    body.construct.layout = "block" := by
  cases body with
  | object | interface => rfl
  | scalars | directiveMappings | input | arguments | oneOf | union | enum => cases h

theorem shows_render (d : Declaration) : d.Shows d.render := by
  have hhead : d.toBlock.head.toList <:+: d.render.toList := by
    obtain ⟨below, hbelow⟩ := d.toBlock.exists_head
    have hrender : d.render.toList = commentAbove d.comment ++ d.toBlock.body.toList :=
      toList_withComment ..
    rw [hrender, hbelow, String.toList_append, ← List.append_assoc]
    exact List.infix_append ..
  refine ⟨d.toBlock.name_infix_head.trans hhead, fun b hb => ?_, fun m hm => ?_⟩
  · exact (Block.infix_head_of_base (layout_of_base hb) hb).trans hhead
  · unfold placed
    split
    · next hunion => exact Block.infix_of_union hunion hm
    · next hlisted =>
      obtain ⟨before, after, htext⟩ := d.toBlock.exists_member hlisted hm
      rw [render, htext]
      exact ⟨before ++ ['\n'], after, by simp⟩

end Declaration

end Code

end SchemaTypings
