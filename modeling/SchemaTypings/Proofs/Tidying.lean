import Mathlib.Data.List.DropRight
import SchemaTypings.Code.Output
import SchemaTypings.Proofs.Cutting
import SchemaTypings.Proofs.Lines

/-!
# Tidied code

Blank line ends go first, and then the newlines behind two newlines. The second step takes nothing but
empty lines that stand next to empty lines, so the other lines stay, in the same paragraphs, and there
is nothing left for a second time.
-/

namespace SchemaTypings

/-! ## Blank ends -/

namespace Text

theorem trimEnd_eq_rdropWhile (cs : List Char) : trimEnd cs = cs.rdropWhile isBlank := by
  induction cs with
  | nil => rfl
  | cons c rest ih =>
    rw [trimEnd, ih, List.rdropWhile, List.rdropWhile, List.reverse_cons, List.dropWhile_append]
    cases hrest : rest.reverse.dropWhile isBlank with
    | nil => cases hc : isBlank c <;> simp [hc]
    | cons d kept => simp

theorem all_isBlank_trimEnd (cs : List Char) : (trimEnd cs).all isBlank = cs.all isBlank := by
  have hends := List.rdropWhile_append_rtakeWhile (p := isBlank) (l := cs)
  have hblank : (cs.rtakeWhile isBlank).all isBlank = true :=
    List.all_eq_true.mpr fun c hc => List.mem_rtakeWhile_imp hc
  rw [trimEnd_eq_rdropWhile]
  conv_rhs => rw [← hends, List.all_append, hblank, Bool.and_true]

theorem isEmpty_trimEnd (cs : List Char) : (trimEnd cs).isEmpty = cs.all isBlank := by
  rw [trimEnd_eq_rdropWhile, Bool.eq_iff_iff]
  simp [List.rdropWhile_eq_nil_iff]

theorem getLast?_trimEnd (cs : List Char) : ∀ c ∈ (trimEnd cs).getLast?, isBlank c = false := by
  intro c hc
  rw [trimEnd_eq_rdropWhile] at hc
  obtain ⟨hne, rfl⟩ := List.mem_getLast?_eq_getLast hc
  simpa using List.rdropWhile_last_not isBlank cs hne

end Text

namespace Code

/-! ## Newlines that follow each other -/

/-- Where `kept` newlines went before, no three newlines follow each other. -/
def Spaced (kept : Nat) (cs : List Char) : Prop :=
  ¬List.replicate 3 '\n' <:+: List.replicate kept '\n' ++ cs

theorem spaced_nil {kept : Nat} (h : kept ≤ 2) : Spaced kept [] := by
  intro hinfix
  have hlength := hinfix.length_le
  simp at hlength
  omega

theorem spaced_newline {kept : Nat} {rest : List Char} :
    Spaced kept ('\n' :: rest) ↔ Spaced (kept + 1) rest := by
  unfold Spaced
  rw [List.replicate_succ' (n := kept), List.append_assoc, List.singleton_append]

theorem not_spaced {kept : Nat} (h : 3 ≤ kept) (rest : List Char) : ¬Spaced kept rest := by
  obtain ⟨more, rfl⟩ := Nat.exists_eq_add_of_le h
  unfold Spaced
  rw [List.replicate_add, List.append_assoc, not_not]
  exact (List.prefix_append _ _).isInfix

theorem spaced_cons {kept : Nat} (h : kept ≤ 2) {c : Char} (hc : c ≠ '\n') {rest : List Char} :
    Spaced kept (c :: rest) ↔ Spaced 0 rest := by
  unfold Spaced
  match kept, h with
  | 0, _ | 1, _ | 2, _ =>
    simp [List.replicate, List.infix_cons_iff, List.cons_prefix_cons, Ne.symm hc]

theorem spaced_squeeze {kept : Nat} (h : kept ≤ 2) (cs : List Char) :
    Spaced kept (squeeze kept cs) := by
  fun_induction squeeze kept cs with
  | case1 kept => exact spaced_nil h
  | case2 kept rest hkept ih => exact spaced_newline.mpr (ih (by omega))
  | case3 kept rest hkept ih => exact ih h
  | case4 kept c rest hc ih => exact (spaced_cons h hc).mpr (ih (by omega))

theorem squeeze_of_spaced {kept : Nat} {cs : List Char} (h : kept ≤ 2) (hspaced : Spaced kept cs) :
    squeeze kept cs = cs := by
  fun_induction squeeze kept cs with
  | case1 kept => rfl
  | case2 kept rest hkept ih => rw [ih (by omega) (spaced_newline.mp hspaced)]
  | case3 kept rest hkept ih =>
    exact absurd (spaced_newline.mp hspaced) (not_spaced (by omega) rest)
  | case4 kept c rest hc ih => rw [ih (by omega) ((spaced_cons h hc).mp hspaced)]

/-! ## Lines that are left -/

/-- The lines that are left where `kept` newlines went before: an empty line goes if two newlines stand
before it and a line behind it. -/
def thin (kept : Nat) : List Line → List Line
  | line :: next :: rest =>
    if line = [] ∧ 2 ≤ kept then thin kept (next :: rest)
    else line :: thin (if line = [] then kept + 1 else 1) (next :: rest)
  | lines => lines

theorem thin_ne_nil {kept : Nat} {lines : List Line} (h : lines ≠ []) : thin kept lines ≠ [] := by
  fun_induction thin kept lines with
  | case1 kept line next rest hdropped ih => exact ih (by simp)
  | case2 kept line next rest hkept ih => simp
  | case3 kept lines hshort => exact h

theorem thin_sublist (kept : Nat) (lines : List Line) : (thin kept lines).Sublist lines := by
  fun_induction thin kept lines with
  | case1 kept line next rest hdropped ih => exact ih.trans (List.sublist_cons_self ..)
  | case2 kept line next rest hkept ih => exact ih.cons_cons line
  | case3 kept lines hshort => exact .refl _

theorem squeeze_line {line : Line} (h : '\n' ∉ line) (kept : Nat) (rest : List Char) :
    squeeze kept (line ++ rest) = line ++ squeeze (if line = [] then kept else 0) rest := by
  induction line generalizing kept with
  | nil => rfl
  | cons c line ih =>
    simp only [List.mem_cons, not_or] at h
    rw [List.cons_append, squeeze, if_neg (Ne.symm h.1), ih h.2]
    simp

theorem squeeze_join (kept : Nat) {lines : List Line} (h : ∀ line ∈ lines, '\n' ∉ line) :
    squeeze kept (Text.join ['\n'] lines) = Text.join ['\n'] (thin kept lines) := by
  fun_induction thin kept lines with
  | case1 kept line next rest hdropped ih =>
    rw [List.forall_mem_cons] at h
    rw [Text.join_cons line (by simp), hdropped.1, List.nil_append, List.singleton_append, squeeze,
      if_pos rfl, if_neg (by omega), ih h.2]
  | case2 kept line next rest hkept ih =>
    rw [List.forall_mem_cons] at h
    have hroom : (if line = [] then kept else 0) < 2 := by
      split
      · next hempty => exact Nat.lt_of_not_le fun hfull => hkept ⟨hempty, hfull⟩
      · omega
    -- The counter of the characters is that of the lines, with the newline of this one.
    have hcount : (if line = [] then kept else 0) + 1 = if line = [] then kept + 1 else 1 := by
      split <;> rfl
    rw [Text.join_cons line (by simp), Text.join_cons line (thin_ne_nil (by simp)),
      List.append_assoc, List.append_assoc, squeeze_line h.1, List.singleton_append, squeeze,
      if_pos rfl, if_pos hroom, hcount, ih h.2]
    rfl
  | case3 kept lines hshort =>
    match lines with
    | [] => rfl
    | [line] =>
      have hline := squeeze_line (h line List.mem_cons_self) kept []
      simpa [Text.join, squeeze] using hline
    | line :: next :: rest => exact absurd rfl (hshort line next rest)

theorem filter_thin (kept : Nat) (lines : List Line) :
    (thin kept lines).filter (fun line => !line.isEmpty) =
      lines.filter fun line => !line.isEmpty := by
  fun_induction thin kept lines with
  | case1 kept line next rest hdropped ih => simpa [hdropped.1] using ih
  | case2 kept line next rest hkept ih => simp only [List.filter_cons, ih]
  | case3 kept lines hshort => rfl

/-! ## Paragraphs -/

def isBlankLine (line : Line) : Bool := line.all Text.isBlank

/-- The lines that stand together, without a blank line between them. -/
def paragraphs (lines : List Line) : List (List Line) :=
  (lines.splitOnP isBlankLine).filter fun paragraph => !paragraph.isEmpty

theorem paragraphs_map {f : Line → Line} (h : ∀ line, isBlankLine (f line) = isBlankLine line)
    (lines : List Line) : paragraphs (lines.map f) = (paragraphs lines).map (List.map f) := by
  have hsplit : (lines.map f).splitOnP isBlankLine =
      (lines.splitOnP isBlankLine).map (List.map f) := by
    induction lines with
    | nil => rfl
    | cons line rest ih =>
      rw [List.map_cons, List.splitOnP_cons_eq_if_modifyHead, h, ih,
        List.splitOnP_cons_eq_if_modifyHead]
      cases rest.splitOnP isBlankLine <;> split <;> simp
  unfold paragraphs
  rw [hsplit, List.filter_map]
  simp [Function.comp_def]

theorem paragraphs_blank_cons {line : Line} (h : isBlankLine line = true) (lines : List Line) :
    paragraphs (line :: lines) = paragraphs lines := by
  unfold paragraphs
  rw [List.splitOnP_cons_eq_if_modifyHead, if_pos h]
  rfl

theorem paragraphs_line_cons {line : Line} (h : ¬isBlankLine line = true) {a b : List Line}
    (hsame : paragraphs a = paragraphs b)
    (hhead : (a.splitOnP isBlankLine).head? = (b.splitOnP isBlankLine).head?) :
    paragraphs (line :: a) = paragraphs (line :: b) ∧
      ((line :: a).splitOnP isBlankLine).head? = ((line :: b).splitOnP isBlankLine).head? := by
  unfold paragraphs at hsame ⊢
  rw [List.splitOnP_cons_eq_if_modifyHead line a, List.splitOnP_cons_eq_if_modifyHead line b,
    if_neg h, if_neg h]
  obtain ⟨first, others, hfirst⟩ := List.exists_cons_of_ne_nil (List.splitOnP_ne_nil isBlankLine a)
  obtain ⟨first', others', hfirst'⟩ :=
    List.exists_cons_of_ne_nil (List.splitOnP_ne_nil isBlankLine b)
  rw [hfirst, hfirst'] at hsame hhead ⊢
  obtain rfl : first = first' := by simpa using hhead
  have hothers : others.filter (fun p => !p.isEmpty) = others'.filter fun p => !p.isEmpty := by
    rw [List.filter_cons, List.filter_cons] at hsame
    split at hsame
    · exact List.tail_eq_of_cons_eq hsame
    · exact hsame
  simp [hothers]

theorem paragraphs_thin (kept : Nat) (lines : List Line) :
    paragraphs (thin kept lines) = paragraphs lines ∧
      (kept < 2 → ((thin kept lines).splitOnP isBlankLine).head? =
        (lines.splitOnP isBlankLine).head?) := by
  -- The induction carries along what stands before the first blank line.
  fun_induction thin kept lines with
  | case1 kept line next rest hdropped ih =>
    have hblank : isBlankLine line = true := by simp [hdropped.1, isBlankLine]
    rw [paragraphs_blank_cons hblank]
    exact ⟨ih.1, fun hkept => by omega⟩
  | case2 kept line next rest hkept ih =>
    by_cases hblank : isBlankLine line = true
    · rw [paragraphs_blank_cons hblank, paragraphs_blank_cons hblank,
        List.splitOnP_cons_eq_if_modifyHead line, List.splitOnP_cons_eq_if_modifyHead line,
        if_pos hblank, if_pos hblank]
      exact ⟨ih.1, fun _ => rfl⟩
    -- A line that is not blank goes on with the paragraph, which is why the first piece is needed.
    · have hline : line ≠ [] := by
        rintro rfl
        exact hblank rfl
      rw [if_neg hline] at ih ⊢
      obtain ⟨hsame, hhead⟩ := paragraphs_line_cons hblank ih.1 (ih.2 (by omega))
      exact ⟨hsame, fun _ => hhead⟩
  | case3 kept lines hshort => exact ⟨rfl, fun _ => rfl⟩

/-! ## Tidied text -/

/-- No line ends with a blank, and no three newlines follow each other. -/
structure IsTidy (cs : List Char) : Prop where
  ends : ∀ line ∈ linesOf cs, ∀ c ∈ line.getLast?, Text.isBlank c = false
  spaced : ¬['\n', '\n', '\n'] <:+: cs

theorem linesOf_tidyChars (code : List Char) :
    linesOf (tidyChars code) = thin 0 ((linesOf code).map Text.trimEnd) := by
  have hlines : ∀ line ∈ (linesOf code).map Text.trimEnd, '\n' ∉ line := by
    intro line hline
    obtain ⟨line, hmem, rfl⟩ := List.mem_map.mp hline
    exact fun h => Text.notMem_of_mem_cut hmem (Text.mem_trimEnd h)
  have hne : (linesOf code).map Text.trimEnd ≠ [] := by
    simpa [linesOf] using Text.cut_ne_nil '\n' code
  have htidy : tidyChars code = Text.join ['\n'] (thin 0 ((linesOf code).map Text.trimEnd)) :=
    squeeze_join 0 hlines
  rw [htidy]
  exact Text.cut_join (fun line h => hlines line ((thin_sublist ..).subset h)) (thin_ne_nil hne)

theorem isTidy_tidyChars (code : List Char) : IsTidy (tidyChars code) := by
  have hspaced : Spaced 0 (tidyChars code) := spaced_squeeze (by omega) _
  refine ⟨fun line hline => ?_, hspaced⟩
  rw [linesOf_tidyChars] at hline
  obtain ⟨line, -, rfl⟩ := List.mem_map.mp ((thin_sublist ..).subset hline)
  exact Text.getLast?_trimEnd line

theorem IsTidy.tidyChars {cs : List Char} (h : IsTidy cs) : tidyChars cs = cs := by
  have hlines : (linesOf cs).map Text.trimEnd = linesOf cs :=
    (List.map_congr_left fun line hline => Text.trimEnd_of_getLast (h.ends line hline)).trans
      (List.map_id _)
  have htidy : Code.tidyChars cs = squeeze 0 (Text.join ['\n'] (linesOf cs)) := by
    conv_rhs => rw [← hlines]
    rfl
  rw [htidy, linesOf, Text.join_cut]
  exact squeeze_of_spaced (by omega) h.spaced

/-- **Tidying takes nothing but blank line ends and surplus blank lines**, and all of them at once: a
tidy text stays as it is, and of any text all lines that are not blank stay, in the same paragraphs. -/
theorem tidy_keeps_text (code : String) :
    tidy (tidy code) = tidy code ∧
    IsTidy (tidy code).toList ∧
    (tidy code = code ↔ IsTidy code.toList) ∧
    (linesOf (tidy code).toList).filter (fun line => !line.isEmpty) =
      ((linesOf code.toList).filter fun line => !isBlankLine line).map
        (·.rdropWhile Text.isBlank) ∧
    (linesOf (tidy code).toList).Sublist
      ((linesOf code.toList).map (·.rdropWhile Text.isBlank)) ∧
    paragraphs (linesOf (tidy code).toList) =
      (paragraphs (linesOf code.toList)).map (List.map (·.rdropWhile Text.isBlank)) := by
  have htrim : Text.trimEnd = (·.rdropWhile Text.isBlank) := funext Text.trimEnd_eq_rdropWhile
  have htidy : (tidy code).toList = tidyChars code.toList := String.toList_ofList
  have hsame : tidy code = code ↔ tidyChars code.toList = code.toList := by
    rw [← htidy, String.toList_inj]
  rw [hsame, tidy, htidy, (isTidy_tidyChars _).tidyChars, ← htrim, linesOf_tidyChars]
  refine ⟨rfl, isTidy_tidyChars _, ⟨fun h => h ▸ isTidy_tidyChars _, (·.tidyChars)⟩, ?_,
    thin_sublist .., ?_⟩
  · rw [filter_thin, List.filter_map]
    simp [Function.comp_def, Text.isEmpty_trimEnd, isBlankLine]
  · rw [(paragraphs_thin ..).1]
    exact paragraphs_map Text.all_isBlank_trimEnd _

example : tidy "a \n\t\n\n\n b" = "a\n\n b" := by decide

end Code

end SchemaTypings
