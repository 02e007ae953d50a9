import SchemaTypings.Proofs.Lines

/-!
# Where a comment ends

A comment is closed by its last two characters and nowhere before, whatever its text holds and however
far it is moved to the right. The lines of its text stand in it one below the other.
-/

namespace SchemaTypings

/-! ## Joined pieces -/

namespace Text

theorem join_concat_append (sep : List Char) (ps : List (List Char)) (p after : List Char) :
    join sep (ps ++ [p ++ after]) = join sep (ps ++ [p]) ++ after := by
  by_cases h : ps = []
  · simp [h, join]
  · have hlast : ∀ q : List Char, join sep [q] = q := fun q => List.intercalate_singleton
    rw [join_append sep h (by simp), join_append sep h (by simp), hlast, hlast]
    simp only [List.append_assoc]

end Text

namespace Code

/-! ## Texts without an end mark -/

theorem unclosed_join {lines : List Line} (h : ∀ line ∈ lines, Unclosed line) :
    Unclosed (Text.join ['\n'] lines) := by
  induction lines with
  | nil => exact unclosed_nil
  | cons line lines ih =>
    simp only [List.mem_cons, forall_eq_or_imp] at h
    by_cases hne : lines = []
    · simpa [hne, Text.join] using h.1
    · have hnewline : '*' ∉ ['\n'] := by decide
      rw [Text.join_cons line hne, List.append_assoc, unclosed_append, unclosed_prepend hnewline]
      exact ⟨h.1, ih h.2, by simp⟩

theorem eq_nil_of_mark {body before after : List Char} (h : Unclosed (body ++ ['*']))
    (heq : body ++ ['*', '/'] = before ++ ['*', '/'] ++ after) : after = [] := by
  rcases List.eq_nil_or_concat after with hnil | ⟨after, c, rfl⟩
  · exact hnil
  -- Without its last character the text would still hold the other mark.
  · have hparts : (body ++ ['*']) ++ ['/'] = (before ++ ['*', '/'] ++ after) ++ [c] := by
      simpa using heq
    have hbody := (List.append_inj' hparts rfl).1
    exact absurd ⟨before, after, hbody.symm⟩ h

theorem exists_pieces (text : List Char) : ∃ pieces, pieces ≠ [] ∧ (∀ p ∈ pieces, Unclosed p) ∧
    text = Text.join ['*', '/'] pieces ∧ guardEnd text = Text.join ['*', '\\', '/'] pieces := by
  fun_induction guardEnd text with
  | case1 rest ih =>
    obtain ⟨pieces, hne, hpieces, htext, hguard⟩ := ih
    refine ⟨[] :: pieces, by simp, ?_, ?_, ?_⟩
    · exact List.forall_mem_cons.mpr ⟨unclosed_nil, hpieces⟩
    · simp [Text.join_cons [] hne, ← htext]
    · simp [Text.join_cons [] hne, hguard]
  | case2 c rest hmark ih =>
    obtain ⟨pieces, hne, hpieces, htext, hguard⟩ := ih
    obtain ⟨p, ps, rfl⟩ := List.exists_cons_of_ne_nil hne
    rw [List.forall_mem_cons] at hpieces
    have hgrow : ∀ sep, c :: Text.join sep (p :: ps) = Text.join sep ((c :: p) :: ps) := by
      intro sep
      cases ps <;> simp [Text.join]
    -- A mark that the new character begins would already stand at the start of the text.
    have hfirst : ¬(c = '*' ∧ p.head? = some '/') := by
      rintro ⟨hc, hslash⟩
      obtain ⟨q, rfl⟩ := List.head?_eq_some_iff.mp hslash
      obtain ⟨tail, htail⟩ := Text.prefix_join ['*', '/'] ('/' :: q) ps
      exact hmark (q ++ tail) hc (by rw [htext, ← htail]; rfl)
    refine ⟨(c :: p) :: ps, by simp, ?_, ?_, ?_⟩
    · exact List.forall_mem_cons.mpr ⟨unclosed_cons.mpr ⟨hfirst, hpieces.1⟩, hpieces.2⟩
    · rw [← hgrow, ← htext]
    · rw [← hgrow, ← hguard]
  | case3 => exact ⟨[[]], by simp, by simp [unclosed_nil], rfl, rfl⟩

/-! ## Comments -/

/-- A comment around lines, moved to the right, that only its last two characters close. -/
structure IsComment (spaces : Nat) (lines : List Line) (cs : List Char) : Prop where
  opened : List.replicate spaces ' ' ++ ['/', '*', '*'] <+: cs
  closed : ['*', '/'] <:+ cs
  once : ∀ before after, cs = before ++ ['*', '/'] ++ after → after = []
  shows : linesOf cs = (framed lines).map (List.replicate spaces ' ' ++ ·)

theorem framed_starts (lines : List Line) :
    ∃ first below, framed lines = (['/', '*', '*'] ++ first) :: below := by
  unfold framed
  split
  · exact ⟨_, _, rfl⟩
  · exact ⟨[], _, rfl⟩

theorem framed_ends {lines : List Line} (h : ∀ line ∈ lines, Unclosed line) :
    ∃ above last, framed lines = above ++ [last ++ ['*', '/']] ∧
      ∀ line ∈ above ++ [last ++ ['*']], Unclosed line := by
  unfold framed
  split
  · next line =>
    refine ⟨[], ['/', '*', '*', ' '] ++ line ++ [' '], by simp, ?_⟩
    have hline : Unclosed line := h line List.mem_cons_self
    have hend : Unclosed [' ', '*'] := by simp [unclosed_cons, unclosed_nil]
    have hrest : Unclosed (line ++ [' ', '*']) := unclosed_append.mpr ⟨hline, hend, by simp⟩
    simpa [unclosed_cons] using hrest
  -- Of several lines only the last one holds the mark.
  · refine ⟨['/', '*', '*'] :: lines.map starred, [' '], by simp, ?_⟩
    have hinner : ∀ line ∈ lines.map starred, Unclosed line := by
      intro line hline
      obtain ⟨line, hmem, rfl⟩ := List.mem_map.mp hline
      exact unclosed_starred (h line hmem)
    have hfixed : Unclosed ['/', '*', '*'] ∧ Unclosed [' ', '*'] := by
      simp [unclosed_cons, unclosed_nil]
    simpa [hfixed, or_imp, forall_and] using hinner

theorem isComment_of_lines {spaces : Nat} {lines : List Line} {cs : List Char}
    (hlines : ∀ line ∈ lines, Unclosed line)
    (h : linesOf cs = (framed lines).map (List.replicate spaces ' ' ++ ·)) :
    IsComment spaces lines cs := by
  let pad (line : Line) : Line := List.replicate spaces ' ' ++ line
  have htext : cs = Text.join ['\n'] ((framed lines).map pad) := by
    rw [← h]
    exact (Text.join_cut '\n' cs).symm
  obtain ⟨first, below, hstarts⟩ := framed_starts lines
  obtain ⟨above, last, hends, hunclosed⟩ := framed_ends hlines
  -- What stands at the end of the last line stands at the end of the comment.
  have hbody : ∀ after, Text.join ['\n'] ((above ++ [last ++ after]).map pad) =
      Text.join ['\n'] (above.map pad ++ [pad last]) ++ after := by
    intro after
    rw [← Text.join_concat_append]
    simp [pad]
  generalize Text.join ['\n'] (above.map pad ++ [pad last]) = body at hbody
  have hmark : cs = body ++ ['*', '/'] := by rw [htext, hends, hbody]
  have hopen : Unclosed (body ++ ['*']) := by
    rw [← hbody]
    refine unclosed_join fun line hline => ?_
    obtain ⟨line, hmem, rfl⟩ := List.mem_map.mp hline
    exact unclosed_replicate.mpr (hunclosed line hmem)
  refine ⟨?_, ?_, ?_, h⟩
  · rw [htext, hstarts, List.map_cons]
    refine List.IsPrefix.trans ?_ (Text.prefix_join ['\n'] _ _)
    exact ⟨first, List.append_assoc ..⟩
  · rw [hmark]
    exact List.suffix_append _ _
  · intro before after heq
    exact eq_nil_of_mark hopen (hmark ▸ heq)

theorem shift_of_mem_framed {lines : List Line} {line : Line} (h : line ∈ framed lines)
    (spaces : Nat) : shift spaces line = List.replicate spaces ' ' ++ line := by
  have hslash : Text.isBlank '/' = false := by decide
  have hstar : Text.isBlank '*' = false := by decide
  refine if_neg ?_
  unfold framed at h
  split at h
  · rw [List.mem_singleton.mp h]
    simp [hslash]
  · simp only [List.cons_append, List.mem_cons, List.mem_append, List.mem_map, List.not_mem_nil,
      or_false] at h
    rcases h with rfl | ⟨line, -, rfl⟩ | rfl
    · simp [hslash]
    · unfold starred
      split <;> simp [hstar]
    · simp [hstar]

/-- **A comment is closed by its last two characters only, however far it is moved to the right, and
shows each line of its text.** -/
theorem comment_closed_once (text : String) (h : text ≠ "") :
    ∃ pieces, (∀ p ∈ pieces, Unclosed p) ∧ text.toList = Text.join ['*', '/'] pieces ∧
      let lines := linesOf (Text.trimOf (· == '\n') (Text.join ['*', '\\', '/'] pieces))
      IsComment 0 lines (comment text).toList ∧
        ∀ spaces, IsComment spaces lines (indent spaces (comment text)).toList := by
  obtain ⟨pieces, -, hpieces, htext, hguard⟩ := exists_pieces text.toList
  refine ⟨pieces, hpieces, htext, ?_⟩
  have hcomment : linesOf (commentChars text.toList) = framed (commentLines text.toList) :=
    linesOf_comment (by simpa using h)
  have hlines : ∀ line ∈ commentLines text.toList, Unclosed line :=
    fun line hline => (mem_commentLines hline).2
  have hshown : linesOf (Text.trimOf (· == '\n') (guardEnd text.toList)) =
    commentLines text.toList := rfl
  rw [← hguard, hshown]
  refine ⟨isComment_of_lines hlines ?_, fun spaces => isComment_of_lines hlines ?_⟩
  · simpa [comment] using hcomment
  · simp only [indent, comment, String.toList_ofList, linesOf_indent, hcomment]
    exact List.map_congr_left fun line hline => shift_of_mem_framed hline spaces

theorem comment_closed_once_marks :
    let text := "*/ first\n\n**/"
    text ≠ "" ∧ comment text = "/**\n * *\\/ first\n *\n * **\\/\n */" ∧
      ∃ pieces, (∀ p ∈ pieces, Unclosed p) ∧ text.toList = Text.join ['*', '/'] pieces ∧
        let lines := linesOf (Text.trimOf (· == '\n') (Text.join ['*', '\\', '/'] pieces))
        IsComment 0 lines (comment text).toList ∧
          ∀ spaces, IsComment spaces lines (indent spaces (comment text)).toList := by
  intro text
  exact ⟨by decide, by decide, comment_closed_once text (by decide)⟩

end Code

end SchemaTypings
