import Mathlib.Data.List.Basic
import Mathlib.Data.List.TakeWhile
import SchemaTypings.Code.Comment

/-!
# The lines of a text

Comments and indentation work on whole lines. A comment is one line between its marks, or a line of its
own for each line of its text; no line of the text holds the mark that ends it.
-/

namespace SchemaTypings.Text

/-! ## Pieces -/

theorem cut_eq_splitOn (sep : Char) (cs : List Char) : cut sep cs = cs.splitOn sep := by
  induction cs with
  | nil => rfl
  | cons c rest ih =>
    rw [cut, List.splitOn_cons_eq_if_modifyHead, ih]
    simp only [beq_iff_eq]
    split
    · rfl
    · cases hrest : rest.splitOn sep with
      | nil => exact absurd hrest (List.splitOn_ne_nil sep rest)
      | cons piece pieces => rfl

theorem cut_append (sep : Char) (a b : List Char) :
    cut sep (a ++ sep :: b) = cut sep a ++ cut sep b := by
  simp only [cut_eq_splitOn]
  exact List.splitOn_append_cons_self a b

theorem cut_of_notMem {sep : Char} {cs : List Char} (h : sep ∉ cs) : cut sep cs = [cs] := by
  rw [cut_eq_splitOn]
  exact List.splitOn_eq_singleton h

theorem cut_join {sep : Char} {pieces : List (List Char)} (h : ∀ p ∈ pieces, sep ∉ p)
    (hne : pieces ≠ []) : cut sep (join [sep] pieces) = pieces := by
  rw [cut_eq_splitOn]
  exact List.splitOn_intercalate sep h hne

theorem notMem_of_mem_cut {sep : Char} {cs piece : List Char} (h : piece ∈ cut sep cs) :
    sep ∉ piece := by
  induction cs generalizing piece with
  | nil =>
    rw [cut, List.mem_singleton] at h
    rw [h]
    exact List.not_mem_nil
  | cons c rest ih =>
    unfold cut at h
    split at h
    · rcases List.mem_cons.mp h with rfl | h
      · exact List.not_mem_nil
      · exact ih h
    · next hc =>
      cases hrest : cut sep rest with
      | nil => exact absurd hrest (cut_ne_nil sep rest)
      | cons first pieces =>
        rw [hrest] at h ih
        rcases List.mem_cons.mp h with rfl | h
        · rw [List.mem_cons, not_or]
          exact ⟨Ne.symm hc, ih List.mem_cons_self⟩
        · exact ih (List.mem_cons_of_mem _ h)

theorem join_cons {sep : List Char} (p : List Char) {ps : List (List Char)} (h : ps ≠ []) :
    join sep (p :: ps) = p ++ sep ++ join sep ps := by
  simp [join, List.intercalate_cons_of_ne_nil h]

theorem prefix_join (sep p : List Char) (ps : List (List Char)) : p <+: join sep (p :: ps) := by
  by_cases h : ps = []
  · simp [h, join]
  · rw [join_cons p h, List.append_assoc]
    exact List.prefix_append _ _

theorem join_append (sep : List Char) {ps qs : List (List Char)} (hps : ps ≠ []) (hqs : qs ≠ []) :
    join sep (ps ++ qs) = join sep ps ++ sep ++ join sep qs := by
  unfold join
  induction ps with
  | nil => exact absurd rfl hps
  | cons p ps ih =>
    rw [List.cons_append]
    by_cases hrest : ps = []
    · rw [hrest, List.nil_append, List.intercalate_cons_of_ne_nil hqs, List.intercalate_singleton]
    · rw [List.intercalate_cons_of_ne_nil (by simp [hrest]), List.intercalate_cons_of_ne_nil hrest,
        ih hrest]
      simp only [List.append_assoc]

theorem infix_join (sep : List Char) {pieces : List (List Char)} {piece : List Char}
    (h : piece ∈ pieces) : piece <:+: join sep pieces := by
  induction pieces with
  | nil => cases h
  | cons first pieces ih =>
    unfold join at ih ⊢
    by_cases hrest : pieces = []
    · subst hrest
      rw [List.mem_singleton.mp h]
      exact ⟨[], [], by simp⟩
    · rw [List.intercalate_cons_of_ne_nil hrest]
      rcases List.mem_cons.mp h with rfl | h
      · exact ⟨[], sep ++ sep.intercalate pieces, by simp⟩
      · exact (ih h).trans (List.suffix_append ..).isInfix

theorem infix_of_mem_cut {sep : Char} {cs piece : List Char} (h : piece ∈ cut sep cs) :
    piece <:+: cs := by
  have hjoin := infix_join [sep] h
  rwa [join_cut] at hjoin

/-! ## Trimming -/

theorem trimOf_isInfix (p : Char → Bool) (cs : List Char) : trimOf p cs <:+: cs := by
  unfold trimOf
  have hinner : (cs.dropWhile p).reverse.dropWhile p <:+ (cs.dropWhile p).reverse :=
    List.dropWhile_suffix p
  have hprefix := List.reverse_prefix.mpr hinner
  rw [List.reverse_reverse] at hprefix
  exact hprefix.isInfix.trans (List.dropWhile_suffix p).isInfix

theorem trimOf_append {p : Char → Bool} {c : Char} (hc : p c = false) (a rest : List Char) :
    trimOf p (a ++ c :: rest) = a.dropWhile p ++ trimOf p (c :: rest) := by
  have hstart : (a ++ c :: rest).dropWhile p = a.dropWhile p ++ c :: rest := by
    rw [List.dropWhile_append]
    split
    · next h => rw [List.isEmpty_iff.mp h, List.dropWhile_cons, hc]; rfl
    · rfl
  -- The character stays, so nothing is trimmed behind it.
  have hkept : ¬((c :: rest).reverse.dropWhile p).isEmpty = true := by
    rw [List.reverse_cons, List.dropWhile_append]
    simp only [List.dropWhile_cons, hc]
    split <;> simp_all
  unfold trimOf
  rw [hstart, List.reverse_append, List.dropWhile_append, if_neg hkept,
    List.reverse_append, List.reverse_reverse, List.dropWhile_cons, hc]
  rfl

end SchemaTypings.Text

namespace SchemaTypings.Code

abbrev Line := List Char

def linesOf (text : List Char) : List Line := Text.cut '\n' text

/-! ## The end mark -/

/-- The mark that ends a comment stands nowhere. -/
def Unclosed (cs : List Char) : Prop := ¬['*', '/'] <:+: cs

theorem Unclosed.mono {a b : List Char} (h : Unclosed b) (hab : a <:+: b) : Unclosed a :=
  fun hmark => h (hmark.trans hab)

theorem guardEnd_cons {c : Char} {rest : List Char} (h : ¬['*', '/'] <+: c :: rest) :
    guardEnd (c :: rest) = c :: guardEnd rest := by
  refine guardEnd.eq_2 c rest ?_
  rintro tail rfl rfl
  exact h ⟨tail, rfl⟩

theorem head?_guardEnd (cs : List Char) : (guardEnd cs).head? = cs.head? := by
  unfold guardEnd
  split <;> rfl

theorem unclosed_nil : Unclosed [] := by simp [Unclosed]

theorem unclosed_cons {c : Char} {rest : List Char} :
    Unclosed (c :: rest) ↔ ¬(c = '*' ∧ rest.head? = some '/') ∧ Unclosed rest := by
  have hnext : ['/'] <+: rest ↔ rest.head? = some '/' := by
    cases rest <;> simp [eq_comm]
  simp [Unclosed, List.infix_cons_iff, List.cons_prefix_cons, hnext, eq_comm]

theorem unclosed_append {a b : List Char} :
    Unclosed (a ++ b) ↔
      Unclosed a ∧ Unclosed b ∧ ¬(a.getLast? = some '*' ∧ b.head? = some '/') := by
  induction a with
  | nil => simp [unclosed_nil]
  | cons c rest ih =>
    rw [List.cons_append, unclosed_cons, unclosed_cons, ih]
    cases rest with
    | nil => simp [unclosed_nil, and_comm]
    | cons d rest => simp [and_assoc]

theorem unclosed_prepend {a b : List Char} (h : '*' ∉ a) : Unclosed (a ++ b) ↔ Unclosed b := by
  induction a with
  | nil => rfl
  | cons c rest ih =>
    simp only [List.mem_cons, not_or] at h
    simp [unclosed_cons, ih h.2, Ne.symm h.1]

theorem unclosed_replicate {spaces : Nat} {line : List Char} :
    Unclosed (List.replicate spaces ' ' ++ line) ↔ Unclosed line :=
  unclosed_prepend fun hmem => absurd (List.eq_of_mem_replicate hmem) (by decide)

theorem unclosed_guardEnd (cs : List Char) : Unclosed (guardEnd cs) := by
  fun_induction guardEnd cs with
  | case1 rest ih => simpa [unclosed_cons] using ih
  | case2 c rest hne ih =>
    refine unclosed_cons.mpr ⟨?_, ih⟩
    rintro ⟨hc, hslash⟩
    rw [head?_guardEnd] at hslash
    obtain ⟨tail, rfl⟩ := List.head?_eq_some_iff.mp hslash
    exact hne tail hc rfl
  | case3 => exact unclosed_nil

theorem guardEnd_append (a b : List Char) :
    guardEnd (a ++ '\n' :: b) = guardEnd a ++ '\n' :: guardEnd b := by
  fun_induction guardEnd a with
  | case1 rest ih => simp only [List.cons_append, guardEnd, ih]
  | case2 c rest hne ih =>
    rw [List.cons_append, guardEnd_cons, ih, List.cons_append]
    rw [List.cons_prefix_cons]
    rintro ⟨hc, tail, htail⟩
    cases rest with
    | nil => cases htail
    | cons d rest => exact hne rest hc.symm (by cases htail; rfl)
  | case3 => rfl

/-! ## Comments -/

/-- A line below others in a comment; of a line of blanks there is nothing behind the star. -/
def starred (line : Line) : Line :=
  if (line.dropWhile Text.isBlank).isEmpty then [' ', '*'] else ' ' :: '*' :: ' ' :: line

/-- A comment around lines: one line stands between the marks, several below each other. -/
def framed : List Line → List Line
  | [line] => [['/', '*', '*', ' '] ++ line ++ [' ', '*', '/']]
  | lines => ['/', '*', '*'] :: lines.map starred ++ [[' ', '*', '/']]

theorem innerLine_eq_starred (line : Line) : innerLine line = starred line := by
  have hblank : line.all Text.isBlank = true ↔ (line.dropWhile Text.isBlank).isEmpty = true := by
    rw [List.isEmpty_iff, List.dropWhile_eq_nil_iff, List.all_eq_true]
  exact if_congr hblank rfl rfl

theorem mem_commentLines {text : List Char} {line : Line} (h : line ∈ commentLines text) :
    '\n' ∉ line ∧ Unclosed line := by
  refine ⟨Text.notMem_of_mem_cut h, ?_⟩
  exact ((unclosed_guardEnd text).mono (Text.trimOf_isInfix ..)).mono (Text.infix_of_mem_cut h)

theorem unclosed_starred {line : Line} (h : Unclosed line) : Unclosed (starred line) := by
  unfold starred
  split
  · simp [unclosed_cons, unclosed_nil]
  · simpa [unclosed_cons] using h

theorem notMem_starred {line : Line} (h : '\n' ∉ line) : '\n' ∉ starred line := by
  unfold starred
  split
  · decide
  · simpa using h

theorem linesOf_comment {text : List Char} (h : text ≠ []) :
    linesOf (commentChars text) = framed (commentLines text) := by
  have hlines := fun line (hline : line ∈ commentLines text) => (mem_commentLines hline).1
  unfold commentChars
  rw [if_neg (by simpa using h), funext innerLine_eq_starred]
  generalize commentLines text = lines at hlines
  have hbelow : linesOf (Text.join ['\n'] (['/', '*', '*'] :: lines.map starred ++
      [[' ', '*', '/']])) = ['/', '*', '*'] :: lines.map starred ++ [[' ', '*', '/']] := by
    refine Text.cut_join ?_ (List.cons_ne_nil _ _)
    intro piece hpiece
    simp only [List.cons_append, List.mem_cons, List.mem_append, List.mem_map, List.not_mem_nil,
      or_false] at hpiece
    rcases hpiece with rfl | ⟨line, hline, rfl⟩ | rfl
    · decide
    · exact notMem_starred (hlines line hline)
    · decide
  match lines with
  | [] => exact hbelow
  | [line] =>
    refine Text.cut_of_notMem ?_
    have hline := hlines line List.mem_cons_self
    simpa using hline
  | _ :: _ :: _ => exact hbelow

def commentAbove : Option String → List Char
  | none => []
  | some note => if note.isEmpty then [] else commentChars note.toList ++ ['\n']

theorem toList_withComment (text : String) (note : Option String) :
    (withComment text note).toList = commentAbove note ++ text.toList := by
  unfold withComment commentAbove
  cases note with
  | none => rfl
  | some note =>
    simp only
    split
    · rfl
    · simp [comment]

/-- Text above a line that begins with another character stays above it in the comment. -/
theorem commentLines_above (above : List Char) {c : Char} (hc : c ≠ '\n') (rest : List Char) :
    ∃ lines, commentLines (above ++ '\n' :: c :: rest) = lines ++ commentLines (c :: rest) := by
  unfold commentLines
  -- Guarding puts characters in, but never in front of the first.
  obtain ⟨tail, htail⟩ : ∃ tail, guardEnd (c :: rest) = c :: tail := by
    have hhead := head?_guardEnd (c :: rest)
    cases hguard : guardEnd (c :: rest) with
    | nil => rw [hguard] at hhead; cases hhead
    | cons d tail =>
      rw [hguard] at hhead
      cases hhead
      exact ⟨tail, rfl⟩
  rw [guardEnd_append, htail, List.append_cons, Text.trimOf_append (by simpa using hc),
    List.dropWhile_append]
  split
  · exact ⟨[], rfl⟩
  · exact ⟨_, by rw [List.append_assoc]; exact Text.cut_append '\n' _ _⟩

/-! ## Indentation -/

/-- A line after it is moved to the right. -/
def shift (spaces : Nat) (line : Line) : Line :=
  if line.all Text.isBlank then line else List.replicate spaces ' ' ++ line

theorem notMem_shift {spaces : Nat} {line : Line} (h : '\n' ∉ line) : '\n' ∉ shift spaces line := by
  unfold shift
  split
  · exact h
  · rw [List.mem_append, not_or]
    exact ⟨fun hmem => absurd (List.eq_of_mem_replicate hmem) (by decide), h⟩

theorem linesOf_indent (spaces : Nat) (text : List Char) :
    linesOf (indentChars spaces text) = (linesOf text).map (shift spaces) := by
  refine Text.cut_join ?_ ?_
  · intro piece hpiece
    obtain ⟨line, hline, rfl⟩ := List.mem_map.mp hpiece
    exact notMem_shift (Text.notMem_of_mem_cut hline)
  · simpa using Text.cut_ne_nil '\n' text

theorem indent_append (spaces : Nat) (a b : List Char) :
    indentChars spaces (a ++ '\n' :: b) = indentChars spaces a ++ '\n' :: indentChars spaces b := by
  have hne : ∀ text, (Text.cut '\n' text).map (shift spaces) ≠ [] := by
    intro text
    simpa using Text.cut_ne_nil '\n' text
  calc indentChars spaces (a ++ '\n' :: b)
      = Text.join ['\n'] ((Text.cut '\n' (a ++ '\n' :: b)).map (shift spaces)) := rfl
    _ = Text.join ['\n'] ((Text.cut '\n' a).map (shift spaces)) ++ ['\n'] ++
          Text.join ['\n'] ((Text.cut '\n' b).map (shift spaces)) := by
        rw [Text.cut_append, List.map_append, Text.join_append _ (hne a) (hne b)]
    _ = indentChars spaces a ++ '\n' :: indentChars spaces b := by
        rw [List.append_assoc]
        rfl

theorem indent_suffix_withComment (spaces : Nat) (text : String) (note : Option String) :
    indentChars spaces text.toList <:+ indentChars spaces (withComment text note).toList := by
  rw [toList_withComment]
  cases note with
  | none => exact List.suffix_refl _
  | some note =>
    rw [commentAbove]
    split
    · exact List.suffix_refl _
    · rw [List.append_assoc, List.singleton_append, indent_append]
      exact (List.suffix_cons ..).trans (List.suffix_append ..)

end SchemaTypings.Code
