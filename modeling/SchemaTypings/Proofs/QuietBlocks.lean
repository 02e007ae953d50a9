import SchemaTypings.Code.Literal
import SchemaTypings.Proofs.OneLine
import SchemaTypings.Proofs.Uncommented

/-!
# Blocks that open no comment

A line opens a comment by its first characters that are not blank. A block of members, none of which
has a line that opens a comment, has none either.
-/

namespace SchemaTypings.Code

/-! ## First characters -/

/-- A character at which a line begins that opens no comment. -/
def isSteady (c : Char) : Bool := !Text.isBlank c && c != '/'

def Begins (text : List Char) : Prop := text.head?.any isSteady = true

instance : DecidablePred Begins := fun _ => inferInstanceAs (Decidable (_ = true))

theorem begins_append {a b : List Char} (h : Begins a) : Begins (a ++ b) := by
  cases a with
  | nil => cases h
  | cons c a => exact h

theorem begins_left {a b : String} (h : Begins a.toList) : Begins (a ++ b).toList := by
  rw [String.toList_append]
  exact begins_append h

theorem begins_word {p : Prop} [Decidable p] {word text : String} (hword : Begins word.toList)
    (htext : Begins text.toList) : Begins ((if p then word else "") ++ text).toList := by
  split
  · exact begins_left hword
  · simpa using htext

theorem not_opens_cons {c : Char} (hc : isSteady c = true) (line : Line) : ¬Opens (c :: line) := by
  rw [isSteady, Bool.and_eq_true, Bool.not_eq_true', bne_iff_ne] at hc
  unfold Opens Text.trimStart
  rw [List.dropWhile_cons, hc.1]
  rintro ⟨rest, hrest⟩
  cases hrest
  exact hc.2 rfl

theorem quiet_of_begins {text : List Char} (hline : '\n' ∉ text) (h : Begins text) : Quiet text := by
  unfold Quiet linesOf
  rw [Text.cut_of_notMem hline, List.forall_mem_singleton]
  cases text with
  | nil => cases h
  | cons c rest => exact not_opens_cons h rest

/-! ## Texts of several lines -/

/-- No line after the first opens a comment. -/
def Calm (text : List Char) : Prop := ∀ line ∈ (linesOf text).tail, ¬Opens line

instance : DecidablePred Calm := fun _ => inferInstanceAs (Decidable (∀ line ∈ _, ¬Opens line))

theorem calm_of_oneLine {text : List Char} (h : '\n' ∉ text) : Calm text := by
  unfold Calm linesOf
  rw [Text.cut_of_notMem h]
  exact nofun

theorem linesOf_cons {c : Char} (hc : c ≠ '\n') (text : List Char) :
    linesOf (c :: text) = (linesOf text).modifyHead (c :: ·) := by
  unfold linesOf
  rw [Text.cut_eq_splitOn, Text.cut_eq_splitOn, List.splitOn_cons_eq_if_modifyHead]
  simp [hc]

theorem linesOf_prepend {a : List Char} (ha : '\n' ∉ a) (b : List Char) :
    linesOf (a ++ b) = (linesOf b).modifyHead (a ++ ·) := by
  induction a with
  | nil =>
    cases hb : linesOf b with
    | nil => exact absurd hb (Text.cut_ne_nil '\n' b)
    | cons line lines => simp [hb]
  | cons c a ih =>
    rw [List.mem_cons, not_or] at ha
    rw [List.cons_append, linesOf_cons (Ne.symm ha.1), ih ha.2, List.modifyHead_modifyHead]
    rfl

theorem calm_prepend {a b : List Char} (ha : '\n' ∉ a) (h : Calm b) : Calm (a ++ b) := by
  unfold Calm at h ⊢
  rw [linesOf_prepend ha, List.tail_modifyHead]
  exact h

theorem quiet_cons {c : Char} (hc : isSteady c = true) {text : List Char} :
    Quiet (c :: text) ↔ Calm text := by
  have hline : c ≠ '\n' := by
    rintro rfl
    exact absurd hc (by decide)
  unfold Quiet Calm
  rw [linesOf_cons hline]
  cases hcut : linesOf text with
  | nil => exact absurd hcut (Text.cut_ne_nil '\n' text)
  | cons line lines =>
    rw [List.modifyHead_cons, List.forall_mem_cons, List.tail_cons]
    exact and_iff_right (not_opens_cons hc line)

theorem quiet_prepend {a b : List Char} (ha : '\n' ∉ a) (hbegins : Begins a) (h : Calm b) :
    Quiet (a ++ b) := by
  cases a with
  | nil => cases hbegins
  | cons c a =>
    rw [List.mem_cons, not_or] at ha
    rw [List.cons_append, quiet_cons hbegins]
    exact calm_prepend ha.2 h

theorem exists_lastLine {text : List Char} (h : '\n' ∈ text) :
    ∃ above last, text = above ++ '\n' :: last ∧ '\n' ∉ last := by
  obtain ⟨last, above, htext, hlast⟩ := List.eq_append_cons_of_mem (List.mem_reverse.mpr h)
  refine ⟨above.reverse, last.reverse, ?_, by simpa using hlast⟩
  have hback := congrArg List.reverse htext
  simpa using hback

theorem opens_of_snoc {line : Line} {c : Char} (hc : c ≠ '*') (h : Opens (line ++ [c])) :
    Opens line := by
  unfold Opens Text.trimStart at h ⊢
  rw [List.dropWhile_append] at h
  split at h
  · have hlength := Nat.le_trans h.length_le (List.dropWhile_sublist _).length_le
    simp at hlength
  · rcases List.prefix_concat_iff.mp h with h | h
    · have hlast := congrArg List.getLast? h
      rw [List.getLast?_concat] at hlast
      exact absurd (Option.some.inj hlast).symm hc
    · exact h

theorem quiet_snoc {text : List Char} (h : Quiet text) {c : Char} (hline : c ≠ '\n')
    (hstar : c ≠ '*') : Quiet (text ++ [c]) := by
  have hlast : ∀ line : Line, '\n' ∉ line → Quiet line → Quiet (line ++ [c]) := by
    intro line hmem hquiet
    have hmem' : '\n' ∉ line ++ [c] := by simp [hmem, Ne.symm hline]
    unfold Quiet linesOf at hquiet ⊢
    rw [Text.cut_of_notMem hmem, List.forall_mem_singleton] at hquiet
    rw [Text.cut_of_notMem hmem', List.forall_mem_singleton]
    exact fun hopens => hquiet (opens_of_snoc hstar hopens)
  -- Only the last line gets longer.
  by_cases hmem : '\n' ∈ text
  · obtain ⟨above, last, rfl, hnew⟩ := exists_lastLine hmem
    rw [quiet_append] at h
    rw [List.append_assoc, List.cons_append, quiet_append]
    exact ⟨h.1, hlast last hnew h.2⟩
  · exact hlast text hmem h

theorem calm_snoc {text : List Char} (h : Calm text) {c : Char} (hline : c ≠ '\n')
    (hstar : c ≠ '*') : Calm (text ++ [c]) := by
  have hsteady : isSteady '_' = true := by decide
  rw [← quiet_cons hsteady] at h ⊢
  exact quiet_snoc h hline hstar

/-! ## Quoted texts -/

theorem linesOf_escapeQuoted (text : List Char) :
    linesOf (escapeQuoted text) = (linesOf text).map escapeQuoted := by
  induction text with
  | nil => rfl
  | cons c rest ih =>
    by_cases hc : c = '\n'
    · subst hc
      show linesOf ('\n' :: escapeQuoted rest) = _
      have hcut : ∀ cs, linesOf ('\n' :: cs) = [] :: linesOf cs := fun _ => rfl
      rw [hcut, hcut, ih]
      rfl
    · rw [linesOf_cons hc, escapeQuoted]
      -- What is put in is no line break, so the line it stands in only gets longer.
      have hslash : '\\' ≠ '\n' := by decide
      split
      · next hmark =>
        rw [linesOf_cons hslash, linesOf_cons hc, ih]
        cases linesOf rest with
        | nil => rfl
        | cons line lines => simp [escapeQuoted, hmark]
      · next hmark =>
        rw [linesOf_cons hc, ih]
        cases linesOf rest with
        | nil => rfl
        | cons line lines => simp [escapeQuoted, hmark]

theorem prefix_of_escapeQuoted {mark text : List Char} (hmark : ∀ c ∈ mark, c ≠ '\\' ∧ c ≠ '\'')
    (h : mark <+: escapeQuoted text) : mark <+: text := by
  induction mark generalizing text with
  | nil => exact List.nil_prefix
  | cons m mark ih =>
    rw [List.forall_mem_cons] at hmark
    cases text with
    | nil => exact h
    | cons c rest =>
      rw [escapeQuoted] at h
      split at h
      · exact absurd (List.cons_prefix_cons.mp h).1 hmark.1.1
      · rw [List.cons_prefix_cons] at h ⊢
        exact ⟨h.1, ih hmark.2 h.2⟩

theorem opens_of_escapeQuoted {line : Line} (h : Opens (escapeQuoted line)) : Opens line := by
  induction line with
  | nil => exact h
  | cons c rest ih =>
    unfold Opens Text.trimStart at h ih ⊢
    rw [escapeQuoted] at h
    rw [List.dropWhile_cons]
    split
    · next hblank =>
      have hplain : ¬(c = '\\' ∨ c = '\'') := by
        rintro (rfl | rfl) <;> exact absurd hblank (by decide)
      rw [if_neg hplain, List.dropWhile_cons, if_pos hblank] at h
      exact ih h
    · next hblank =>
      split at h
      -- The text begins with a backslash, the mark does not.
      · have hback : Text.isBlank '\\' = false := by decide
        rw [List.dropWhile_cons, hback] at h
        exact absurd (List.cons_prefix_cons.mp h).1 (by decide)
      · next hplain =>
        rw [List.dropWhile_cons, if_neg hblank] at h
        have hmark : ∀ d ∈ ['/', '*', '*'], d ≠ '\\' ∧ d ≠ '\'' := by simp
        refine prefix_of_escapeQuoted hmark ?_
        rw [escapeQuoted, if_neg hplain]
        exact h

theorem calm_quoteChars {text : List Char} (h : Calm text) : Calm (quoteChars text) := by
  have hescaped : Calm (escapeQuoted text) := by
    unfold Calm at h ⊢
    rw [linesOf_escapeQuoted, ← List.map_tail, List.forall_mem_map]
    exact fun line hline hopens => h line hline (opens_of_escapeQuoted hopens)
  have hfirst : '\n' ∉ ['\''] := by decide
  exact calm_prepend hfirst (calm_snoc hescaped (by decide) (by decide))

/-! ## Blocks -/

/-- What opens no comment wherever it follows a text. -/
def Follows (after : List Char) : Prop := ∀ text, Quiet text → Quiet (text ++ after)

theorem follows_nil : Follows [] := fun text h => (List.append_nil text).symm ▸ h

theorem follows_char {c : Char} (hline : c ≠ '\n') (hstar : c ≠ '*') : Follows [c] :=
  fun _ h => quiet_snoc h hline hstar

theorem follows_lines {after : List Char} (h : Quiet after) : Follows ('\n' :: after) :=
  fun _ htext => quiet_append.mpr ⟨htext, h⟩

theorem quiet_join {sep tail : List Char} (hsep : Follows sep) (htail : Follows tail)
    {texts : List (List Char)} (h : ∀ text ∈ texts, Quiet text) :
    Quiet (Text.join (sep ++ ['\n']) texts ++ tail) := by
  unfold Text.join
  induction texts with
  | nil =>
    have hnil : Quiet [] := by decide
    exact htail [] hnil
  | cons text texts ih =>
    rw [List.forall_mem_cons] at h
    by_cases hrest : texts = []
    · rw [hrest, List.intercalate_singleton]
      exact htail text h.1
    · rw [List.intercalate_cons_of_ne_nil hrest]
      have hlines := quiet_append.mpr ⟨hsep text h.1, ih h.2⟩
      simpa only [List.append_assoc, List.cons_append, List.nil_append] using hlines

namespace Block

variable {b : Block}

theorem oneLine_exportWord (b : Block) : OneLine b.exportWord :=
  oneLine_ite (by decide) (by decide)

theorem begins_exportWord (b : Block) {text : String} (h : Begins text.toList) :
    Begins (b.exportWord ++ text).toList := by
  have hword : Begins "export ".toList := by decide
  exact begins_word hword h

/-- A block whose names stand on one line each. -/
structure Settled (b : Block) : Prop where
  name : OneLine b.name
  keyword : ∃ k : DeclarationKeyword, b.keyword = k.word
  bases : ∀ base ∈ b.bases, OneLine base

theorem Settled.basesText (h : b.Settled) : OneLine b.basesText := by
  have hfixed : OneLine " = " ∧ OneLine " & " ∧ OneLine " " ∧ OneLine " extends " ∧
      OneLine " implements " ∧ OneLine ", " := by decide
  unfold Block.basesText
  refine oneLine_ite ?_ (oneLine_ite hfixed.2.2.1 ?_)
  · refine oneLine_append.mpr ⟨hfixed.1, oneLine_join ?_⟩
    intro text htext
    obtain ⟨base, hbase, rfl⟩ := List.mem_map.mp htext
    exact oneLine_append.mpr ⟨h.bases base hbase, hfixed.2.1⟩
  · simp only [oneLine_append]
    exact ⟨⟨oneLine_ite hfixed.2.2.2.1 hfixed.2.2.2.2.1,
      oneLine_intercalate hfixed.2.2.2.2.2 h.bases⟩, hfixed.2.2.1⟩

theorem Settled.oneLine_keyword (h : b.Settled) : OneLine b.keyword := by
  obtain ⟨k, hk⟩ := h.keyword
  rw [hk]
  cases k <;> decide

theorem Settled.begins_keyword (h : b.Settled) : Begins b.keyword.toList := by
  obtain ⟨k, hk⟩ := h.keyword
  rw [hk]
  cases k <;> decide

theorem Settled.quiet_head (h : b.Settled) : Quiet b.head.toList := by
  have hkeyword := h.oneLine_keyword
  refine quiet_of_begins (show OneLine b.head from ?_) ?_
  · unfold head
    have hconst : OneLine (if b.isConst then "const " else "") := oneLine_ite (by decide) (by decide)
    cases b.construct <;>
      simp +decide only [oneLine_append, h.name, h.basesText, hkeyword, hconst,
        b.oneLine_exportWord, and_true]
  · unfold head
    have hconst : Begins ((if b.isConst then "const " else "") ++ "enum ").toList := by
      split <;> decide
    cases b.construct <;> simp only [String.append_assoc] <;> refine b.begins_exportWord ?_
    case enum =>
      rw [← String.append_assoc]
      exact begins_left hconst
    case scalars | directiveMappings | object | interface | input | arguments =>
      exact begins_left h.begins_keyword
    all_goals exact begins_left (by decide)

theorem follows_separator (b : Block) : Follows b.separator.toList := by
  have hcomma : Follows [','] := follows_char (by decide) (by decide)
  unfold separator
  split
  · exact hcomma
  · exact hcomma
  · exact follows_nil

theorem Settled.quiet_typeLine (h : b.Settled) {text : String} (htext : OneLine text) :
    Quiet (b.exportWord ++ ("type " ++ b.name ++ text)).toList := by
  refine quiet_of_begins (show OneLine (b.exportWord ++ ("type " ++ b.name ++ text)) from ?_) ?_
  · simp +decide only [oneLine_append, h.name, htext, b.oneLine_exportWord, and_true]
  · exact b.begins_exportWord (begins_left (begins_left (by decide)))

theorem Settled.follows_tail (h : b.Settled) : Follows b.tail.toList := by
  have hsemicolon : Follows ";".toList := by
    have hchar : Follows [';'] := follows_char (by decide) (by decide)
    simpa using hchar
  have hclosed : Follows ['\n', '\x7d'] := follows_lines (by decide)
  have hended : Follows ['\n', '\x7d', ';'] := follows_lines (by decide)
  have hclosing : ∀ p : Prop, [Decidable p] →
      Follows ("\n" ++ closing ++ (if p then ";" else "")).toList := by
    intro p _
    split
    · exact hended
    · exact hclosed
  unfold tail
  cases b.construct with
  | oneOfInput | enumAsType | union => exact hsemicolon
  | enumAsConst =>
    have hvalues : OneLine (" = typeof " ++ b.name ++ "[keyof typeof " ++ b.name ++ "];") := by
      simp +decide only [oneLine_append, h.name, and_true]
    have hlines : Quiet ("\x7d as const;".toList ++ '\n' :: ([] ++ '\n' :: (b.exportWord ++ ("type " ++
        b.name ++ (" = typeof " ++ b.name ++ "[keyof typeof " ++ b.name ++ "];"))).toList)) :=
      quiet_append.mpr ⟨by decide, quiet_append.mpr ⟨by decide, h.quiet_typeLine hvalues⟩⟩
    have hall := follows_lines hlines
    simpa [closing] using hall
  | enum | scalars | directiveMappings | object | interface | input | arguments => exact hclosing _

theorem Settled.quiet_union (h : b.Settled) (hmembers : ∀ m ∈ b.members, OneLine m) :
    Quiet b.unionText.toList := by
  have hbar : OneLine " | " := by decide
  have htext : OneLine (" = " ++ " | ".intercalate b.members ++ ";") := by
    simp +decide only [oneLine_append, oneLine_intercalate hbar hmembers, and_true]
  have hline := h.quiet_typeLine htext
  have hall : b.unionText =
      b.exportWord ++ ("type " ++ b.name ++ (" = " ++ " | ".intercalate b.members ++ ";")) := by
    simp only [unionText, String.append_assoc]
  rwa [hall]

theorem Settled.quiet_empty (h : b.Settled) (hne : b.members = []) : Quiet b.fieldsText.toList := by
  have hend : OneLine (if b.keyword = "type" then ";" else "") := oneLine_ite (by decide) (by decide)
  have htext : b.fieldsText = b.exportWord ++ (b.keyword ++ (" " ++ b.name ++ b.basesText ++
      (opening ++ closing) ++ if b.keyword = "type" then ";" else "")) := by
    unfold fieldsText
    rw [hne]
    simp only [Block.basesText, String.append_assoc, List.isEmpty_nil, if_true]
  rw [htext]
  refine quiet_of_begins (show OneLine (b.exportWord ++ _) from ?_) ?_
  · simp +decide only [oneLine_append, h.name, h.basesText, h.oneLine_keyword, hend,
      b.oneLine_exportWord, and_true]
  · exact b.begins_exportWord (begins_left h.begins_keyword)

theorem body_of_layout (h : b.construct.layout = "block") : b.body = b.fieldsText := by
  unfold body
  cases hconstruct : b.construct with
  | scalars | directiveMappings | object | interface | input | arguments => rfl
  | oneOfInput | union | enum | enumAsType | enumAsConst =>
    rw [hconstruct] at h
    exact absurd h (by decide)

/-- A block opens no comment if none of its members does. -/
theorem quiet_body (h : b.Settled) (hunion : b.construct = .union → ∀ m ∈ b.members, OneLine m)
    (hmembers : b.construct ≠ .union → ∀ m ∈ b.members, Quiet m.toList) :
    Quiet b.body.toList := by
  by_cases hconstruct : b.construct = .union
  · have hbody : b.body = b.unionText := by
      unfold body
      rw [hconstruct]
    rw [hbody]
    exact h.quiet_union (hunion hconstruct)
  by_cases hempty : b.construct.layout = "block" ∧ b.members = []
  · rw [body_of_layout hempty.1]
    exact h.quiet_empty hempty.2
  · have hlisted : b.Listed := ⟨hconstruct, fun hlayout hnil => hempty ⟨hlayout, hnil⟩⟩
    rw [toList_body hlisted, List.append_assoc, List.cons_append]
    refine quiet_append.mpr ⟨h.quiet_head, quiet_join b.follows_separator h.follows_tail ?_⟩
    intro text htext
    obtain ⟨m, hm, rfl⟩ := List.mem_map.mp htext
    exact quiet_indent.mpr (hmembers hconstruct m hm)

end Block

end SchemaTypings.Code
