import SchemaTypings.Proofs.Bare
import SchemaTypings.Proofs.Layout

/-!
# Code without its comments

Comments can be taken out of code line by line: one begins at a line that opens it and goes on to the
first line that closes it. What is left of a declaration is the declaration written without notes, if
none of its own lines opens a comment.
-/

namespace SchemaTypings.Code

/-! ## Taking comments out -/

/-- After its blanks, a line begins with the mark that opens a comment. -/
def Opens (line : Line) : Prop := ['/', '*', '*'] <+: Text.trimStart line

instance : DecidablePred Opens := fun _ => inferInstanceAs (Decidable (_ <+: _))

def Closes (line : Line) : Prop := ['*', '/'] <:+ line

instance : DecidablePred Closes := fun _ => inferInstanceAs (Decidable (_ <:+ _))

/-- The lines outside of comments; `inside` says whether one has been opened before. -/
def outside (inside : Bool) : List Line → List Line
  | [] => []
  | line :: rest =>
    if inside ∨ Opens line then outside (!decide (Closes line)) rest else line :: outside false rest

def withoutComments (code : String) : List Line := outside false (linesOf code.toList)

/-- Taking comments out of lines leaves some of them, and ends outside of comments. -/
def Leaves (lines left : List Line) : Prop :=
  ∀ rest, outside false (lines ++ rest) = left ++ outside false rest

theorem Leaves.append {a a' b b' : List Line} (h : Leaves a b) (h' : Leaves a' b') :
    Leaves (a ++ a') (b ++ b') := by
  intro rest
  rw [List.append_assoc, h, h', List.append_assoc]

theorem outside_of_leaves {lines left : List Line} (h : Leaves lines left) :
    outside false lines = left := by
  have hall := h []
  rwa [List.append_nil, outside, List.append_nil] at hall

/-! ## Lines that stay -/

/-- No line opens a comment. -/
def Quiet (text : List Char) : Prop := ∀ line ∈ linesOf text, ¬Opens line

instance : DecidablePred Quiet := fun _ => inferInstanceAs (Decidable (∀ line ∈ _, ¬Opens line))

theorem leaves_of_quiet {text : List Char} (h : Quiet text) :
    Leaves (linesOf text) (linesOf text) := by
  unfold Quiet at h
  generalize linesOf text = lines at h
  intro rest
  induction lines with
  | nil => rfl
  | cons line lines ih =>
    rw [List.forall_mem_cons] at h
    rw [List.cons_append, outside, if_neg (by simpa using h.1), ih h.2, List.cons_append]

theorem quiet_append {a b : List Char} : Quiet (a ++ '\n' :: b) ↔ Quiet a ∧ Quiet b := by
  unfold Quiet linesOf
  rw [Text.cut_append, List.forall_mem_append]

theorem opens_shift {spaces : Nat} {line : Line} : Opens (shift spaces line) ↔ Opens line := by
  have hblank : ∀ n, Text.trimStart (List.replicate n ' ' ++ line) = Text.trimStart line := by
    intro n
    induction n with
    | zero => rfl
    | succ n ih => exact ih
  unfold Opens shift
  split
  · exact Iff.rfl
  · rw [hblank]

theorem quiet_indent {spaces : Nat} {text : List Char} :
    Quiet (indentChars spaces text) ↔ Quiet text := by
  unfold Quiet
  rw [linesOf_indent, List.forall_mem_map]
  exact forall₂_congr fun _ _ => not_congr opens_shift

/-! ## Lines of comments -/

theorem not_closes {line : Line} (h : Unclosed line) : ¬Closes line := fun hclose => h hclose.isInfix

theorem unclosed_shift {spaces : Nat} {line : Line} (h : Unclosed line) :
    Unclosed (shift spaces line) := by
  unfold shift
  split
  · exact h
  · exact unclosed_replicate.mpr h

theorem outside_inner {lines : List Line} (h : ∀ line ∈ lines, Unclosed line) {last : Line}
    (hlast : Closes last) (rest : List Line) :
    outside true (lines ++ last :: rest) = outside false rest := by
  induction lines with
  | nil => simp [outside, hlast]
  | cons line lines ih =>
    rw [List.forall_mem_cons] at h
    simp [outside, not_closes h.1, ih h.2]

theorem closes_shift {spaces : Nat} {line : Line} (h : Closes line) :
    Closes (shift spaces line) := by
  unfold shift
  split
  · exact h
  · exact h.trans (List.suffix_append ..)

theorem leaves_framed (spaces : Nat) {lines : List Line} (h : ∀ line ∈ lines, Unclosed line) :
    Leaves ((framed lines).map (shift spaces)) [] := by
  -- The first line opens the comment, and only the last one closes it.
  have hbelow : Leaves ((['/', '*', '*'] :: lines.map starred ++ [[' ', '*', '/']]).map
      (shift spaces)) [] := by
    have hopens : Opens (shift spaces ['/', '*', '*']) := opens_shift.mpr (by decide)
    have hclosed : ¬Closes (shift spaces ['/', '*', '*']) :=
      not_closes (unclosed_shift (by simp [unclosed_cons, unclosed_nil]))
    have hinner : ∀ line ∈ (lines.map starred).map (shift spaces), Unclosed line := by
      rw [List.map_map, List.forall_mem_map]
      exact fun line hline => unclosed_shift (unclosed_starred (h line hline))
    have hlast : Closes (shift spaces [' ', '*', '/']) := closes_shift (by decide)
    intro rest
    rw [List.cons_append, List.map_cons, List.map_append, List.map_singleton, List.cons_append,
      outside, if_pos (Or.inr hopens), decide_eq_false hclosed, List.append_assoc]
    exact outside_inner hinner hlast rest
  match lines with
  | [] => exact hbelow
  | [line] =>
    have hopens : Opens (shift spaces (['/', '*', '*', ' '] ++ line ++ [' ', '*', '/'])) :=
      opens_shift.mpr ⟨' ' :: line ++ [' ', '*', '/'], rfl⟩
    have hclosed : Closes (shift spaces (['/', '*', '*', ' '] ++ line ++ [' ', '*', '/'])) :=
      closes_shift ⟨['/', '*', '*', ' '] ++ line ++ [' '], by simp⟩
    intro rest
    rw [framed, List.map_singleton, List.singleton_append, outside, if_pos (Or.inr hopens),
      decide_eq_true hclosed]
    rfl
  | _ :: _ :: _ => exact hbelow

/-! ## Texts with and without comments -/

/-- Without its comments, the first text has the lines of the second. -/
def Loses (text bare : List Char) : Prop := Leaves (linesOf text) (linesOf bare)

theorem Loses.of_quiet {text : List Char} (h : Quiet text) : Loses text text := leaves_of_quiet h

theorem Loses.line {a a' b b' : List Char} (h : Loses a b) (h' : Loses a' b') :
    Loses (a ++ '\n' :: a') (b ++ '\n' :: b') := by
  unfold Loses linesOf
  rw [Text.cut_append, Text.cut_append]
  exact h.append h'

theorem Loses.below {note : List Char} (hnote : note ≠ []) {text bare : List Char}
    (h : Loses text bare) (spaces : Nat) :
    Loses (indentChars spaces (commentChars note) ++ '\n' :: text) bare := by
  have hlines : ∀ line ∈ commentLines note, Unclosed line := fun _ hline => (mem_commentLines hline).2
  have hcomment := leaves_framed spaces hlines
  unfold Loses
  have hcut : linesOf (indentChars spaces (commentChars note) ++ '\n' :: text) =
      (framed (commentLines note)).map (shift spaces) ++ linesOf text := by
    rw [← linesOf_comment hnote, ← linesOf_indent]
    exact Text.cut_append ..
  rw [hcut]
  exact hcomment.append h

theorem indent_zero (text : List Char) : indentChars 0 text = text := by
  have hsame : ∀ line, shift 0 line = line := by
    intro line
    unfold shift
    split <;> rfl
  calc indentChars 0 text
      = Text.join ['\n'] ((Text.cut '\n' text).map (shift 0)) := rfl
    _ = text := by rw [funext hsame, List.map_id', Text.join_cut]

/-- What a comment puts above a text, however far it is moved to the right, is lost. -/
theorem exists_above (note : Option String) (spaces : Nat) : ∃ above,
    (∀ text, indentChars spaces (commentAbove note ++ text) = above ++ indentChars spaces text) ∧
      ∀ text bare, Loses text bare → Loses (above ++ text) bare := by
  cases note with
  | none => exact ⟨[], fun _ => rfl, fun _ _ h => h⟩
  | some note =>
    by_cases hempty : note.isEmpty = true
    · refine ⟨[], fun _ => ?_, fun _ _ h => h⟩
      rw [commentAbove, if_pos hempty]
      rfl
    · refine ⟨indentChars spaces (commentChars note.toList) ++ ['\n'], fun text => ?_, ?_⟩
      · rw [commentAbove, if_neg hempty, List.append_assoc, List.append_assoc]
        exact indent_append ..
      · intro text bare h
        rw [List.append_assoc]
        exact h.below (by simpa using hempty) spaces

theorem loses_withComment {bare : String} {after : List Char} (note : Option String) (spaces : Nat)
    (h : Quiet (indentChars spaces bare.toList ++ after)) :
    Loses (indentChars spaces (withComment bare note).toList ++ after)
      (indentChars spaces bare.toList ++ after) := by
  obtain ⟨above, habove, hloses⟩ := exists_above note spaces
  rw [toList_withComment, habove, List.append_assoc]
  exact hloses _ _ (.of_quiet h)

def Commented (text bare : String) : Prop := ∃ note, text = withComment bare note

theorem loses_members {texts bares : List String} (h : List.Forall₂ Commented texts bares)
    (hne : bares ≠ []) (sep tail : List Char)
    (hquiet : Quiet (Text.join (sep ++ ['\n']) (bares.map fun m => indentChars 2 m.toList) ++ tail)) :
    Loses (Text.join (sep ++ ['\n']) (texts.map fun m => indentChars 2 m.toList) ++ tail)
      (Text.join (sep ++ ['\n']) (bares.map fun m => indentChars 2 m.toList) ++ tail) := by
  unfold Text.join at hquiet ⊢
  induction h with
  | nil => exact absurd rfl hne
  | @cons text bare texts bares hnote hrest ih =>
    obtain ⟨note, rfl⟩ := hnote
    cases hrest with
    | nil =>
      simp only [List.map_singleton, List.intercalate_singleton] at hquiet ⊢
      exact loses_withComment note 2 hquiet
    | @cons text' bare' texts bares hnote hrest =>
      -- Members are cut apart at a line break, where no comment is open.
      have hsplit : ∀ (x y : String) (xs : List String),
          (sep ++ ['\n']).intercalate ((x :: y :: xs).map fun m => indentChars 2 m.toList) ++ tail =
            (indentChars 2 x.toList ++ sep) ++ '\n' :: ((sep ++ ['\n']).intercalate
              ((y :: xs).map fun m => indentChars 2 m.toList) ++ tail) := by
        intro x y xs
        rw [List.map_cons, List.map_cons, List.intercalate_cons_cons]
        simp only [List.append_assoc, List.cons_append, List.nil_append]
      rw [hsplit, quiet_append] at hquiet
      rw [hsplit, hsplit]
      exact (loses_withComment note 2 hquiet.1).line (ih (List.cons_ne_nil _ _) hquiet.2)

/-! ## Declarations -/

theorem commented_members (b : DeclarationBody) :
    List.Forall₂ Commented b.members b.bare.members := by
  have hsame : ∀ texts : List String, List.Forall₂ Commented texts texts :=
    fun texts => List.forall₂_same.mpr fun _ _ => ⟨none, rfl⟩
  have hattributes : ∀ fields : List Attribute, List.Forall₂ Commented (fields.map Attribute.text)
      ((fields.map Attribute.bare).map Attribute.text) := by
    intro fields
    rw [List.map_map, List.forall₂_map_left_iff, List.forall₂_map_right_iff, List.forall₂_same]
    exact fun a _ => ⟨a.comment, rfl⟩
  have hrows : ∀ rows : List ScalarRow, List.Forall₂ Commented (rows.map ScalarRow.text)
      ((rows.map ScalarRow.bare).map ScalarRow.text) := by
    intro rows
    rw [List.map_map, List.forall₂_map_left_iff, List.forall₂_map_right_iff, List.forall₂_same]
    exact fun r _ => ⟨Note.said? r.description, rfl⟩
  cases b with
  | scalars rows | directiveMappings rows => exact hrows rows
  | object keyword bases typename fields => exact List.rel_append (hsame _) (hattributes fields)
  | interface keyword bases fields | input keyword fields | arguments keyword fields =>
    exact hattributes fields
  | oneOf isReadonly variants => exact hsame _
  | union members openReadonly => exact hsame _
  | enum form futureProof lines =>
    refine List.rel_append ?_ (hsame _)
    rw [List.map_map, List.forall₂_map_left_iff, List.forall₂_map_right_iff, List.forall₂_same]
    exact fun l _ => ⟨l.comment, rfl⟩

theorem toBlock_bare (d : Declaration) :
    d.bare.toBlock = { d.toBlock with comment := none, members := d.body.bare.members } := by
  obtain ⟨identifier, comment, exported, body⟩ := d
  cases body with
  | enum form futureProof lines => cases form <;> rfl
  | _ => rfl

theorem body_of_members {d : Declaration} (h : d.body.bare.members = d.body.members) :
    d.bare.toBlock.body = d.toBlock.body := by
  rw [toBlock_bare, h]
  rfl

theorem toList_bare {d : Declaration} (hlisted : d.toBlock.construct ≠ .union)
    (hne : d.body.bare.members ≠ []) : d.bare.render.toList = d.toBlock.head.toList ++ '\n' ::
      (Text.join (d.toBlock.separator.toList ++ ['\n'])
        (d.body.bare.members.map fun m => indentChars 2 m.toList) ++ d.toBlock.tail.toList) := by
  let b : Block := { d.toBlock with comment := none, members := d.body.bare.members }
  have hrender : d.bare.render = b.body := congrArg Block.body (toBlock_bare d)
  have hbody : b.body.toList = b.head.toList ++ '\n' :: b.memberChars ++ b.tail.toList :=
    Block.toList_body ⟨hlisted, fun _ => hne⟩
  rw [hrender, hbody, List.append_assoc]
  rfl

theorem loses_render {d : Declaration} (hquiet : Quiet d.bare.render.toList) :
    Loses d.render.toList d.bare.render.toList := by
  have hmembers := commented_members d.body
  obtain ⟨above, habove, hloses⟩ := exists_above d.comment 0
  have hrender : d.render.toList = above ++ d.toBlock.body.toList := by
    have hall := habove d.toBlock.body.toList
    rw [indent_zero, indent_zero] at hall
    exact (toList_withComment ..).trans hall
  rw [hrender]
  refine hloses _ _ ?_
  -- Without notes on members only the comment above the block is lost.
  by_cases hsame : d.body.bare.members = d.body.members
  · have hbare : d.bare.render = d.toBlock.body := body_of_members hsame
    rw [hbare] at hquiet ⊢
    exact .of_quiet hquiet
  · have hlisted : d.toBlock.construct ≠ .union := by
      intro hunion
      obtain ⟨identifier, comment, exported, body⟩ := d
      cases body with
      | union _ _ => exact hsame rfl
      | enum form _ _ => cases form <;> cases hunion
      | _ => cases hunion
    have hne : d.body.members ≠ [] := by
      intro hnil
      rw [hnil, List.forall₂_nil_left_iff] at hmembers
      exact hsame (hmembers.trans hnil.symm)
    have hne' : d.body.bare.members ≠ [] := by
      intro hnil
      rw [hnil, List.forall₂_nil_right_iff] at hmembers
      exact hne hmembers
    rw [toList_bare hlisted hne', quiet_append] at hquiet
    rw [toList_bare hlisted hne', Block.toList_body ⟨hlisted, fun _ => hne⟩, List.append_assoc]
    exact (Loses.of_quiet hquiet.1).line (loses_members hmembers hne' _ _ hquiet.2)

/-- **A declaration without its comments is what it would be without notes**, if none of its own
lines opens a comment. -/
theorem withoutComments_render {d : Declaration} (hquiet : Quiet d.bare.render.toList) :
    withoutComments d.render = linesOf d.bare.render.toList :=
  outside_of_leaves (loses_render hquiet)

end SchemaTypings.Code
