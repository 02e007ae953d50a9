import SchemaTypings.Proofs.OptionKeys

/-!
# The words of a name in one pass

Before a name is cut into words, two substitutions put blanks into it, and the second one works on
what the first one left. Together they put a blank exactly where a look at the neighbours of a
capital says that a word ends, so the words are those of a single pass.
-/

namespace SchemaTypings.Name

/-! ## The longest runs -/

theorem runs_of_head {p : Char → Bool} {c : Char} (hc : p c = true) (rest : List Char) :
    ∃ run others, runs p (c :: rest) = (c :: run) :: others ∧
      run.head? = rest.head?.filter p := by
  induction rest generalizing c with
  | nil => exact ⟨[], [], by simp [runs, hc], rfl⟩
  | cons d rest ih =>
    cases hd : p d with
    | false => exact ⟨[], runs p rest, runs_end hc hd rest, by simp [Option.filter_some, hd]⟩
    | true =>
      obtain ⟨run, others, hrun, -⟩ := ih hd
      exact ⟨d :: run, others, runs_extend hc hd hrun, by simp [Option.filter_some, hd]⟩

/-- The runs are the pieces between the characters without the property, but for the empty ones. -/
theorem runs_eq_splitOnP (p : Char → Bool) (cs : List Char) :
    runs p cs = (cs.splitOnP fun c => !p c).filter fun piece => !piece.isEmpty := by
  induction cs with
  | nil => rfl
  | cons c rest ih =>
    cases hc : p c with
    | false =>
      rw [runs_skip hc, ih]
      simp [List.splitOnP_cons_eq_if_modifyHead, hc]
    | true =>
      cases rest with
      | nil => simp [runs, List.splitOnP_cons_eq_if_modifyHead, hc]
      | cons d rest =>
        cases hd : p d with
        | false =>
          rw [runs_end hc hd, ← runs_skip hd, ih]
          simp [List.splitOnP_cons_eq_if_modifyHead, hc, hd]
        | true =>
          obtain ⟨piece, pieces, hpieces⟩ :=
            List.exists_cons_of_ne_nil (List.splitOnP_ne_nil (fun c => !p c) rest)
          have hfirst : runs p (d :: rest) =
              (d :: piece) :: pieces.filter fun piece => !piece.isEmpty := by
            rw [ih]
            simp [List.splitOnP_cons_eq_if_modifyHead, hd, hpieces]
          rw [runs_extend hc hd hfirst]
          simp [List.splitOnP_cons_eq_if_modifyHead, hc, hd, hpieces]

theorem flatten_runs (p : Char → Bool) (cs : List Char) : (runs p cs).flatten = cs.filter p := by
  induction cs with
  | nil => rfl
  | cons c rest ih =>
    cases hc : p c with
    | false => rw [runs_skip hc, ih, List.filter_cons_of_neg (by simp [hc])]
    | true =>
      rw [List.filter_cons_of_pos hc]
      cases rest with
      | nil => simp [runs, hc]
      | cons d rest =>
        cases hd : p d with
        | false =>
          rw [runs_skip hd] at ih
          rw [runs_end hc hd, List.flatten_cons, ih, List.filter_cons_of_neg (by simp [hd])]
          rfl
        | true =>
          obtain ⟨run, others, hrun, -⟩ := runs_of_head hd rest
          rw [hrun] at ih
          rw [runs_extend hc hd hrun, ← ih]
          rfl

/-! ## Where the blanks go -/

theorem not_isUpper_of_small {c : Char} (h : (isLower c || isDigit c) = true) :
    isUpper c = false :=
  ascii_cases (P := fun c => (isLower c || isDigit c) = true → isUpper c = false) (by decide)
    (toNat_of_isWordChar (by cases hl : isLower c <;> simp_all [isWordChar])) h

theorem spaceBeforeCapitals_of_isUpper {b : Char} (hb : isUpper b = true) (rest : List Char) :
    spaceBeforeCapitals (b :: rest) = b :: spaceBeforeCapitals rest := by
  cases rest with
  | nil => rfl
  | cons c rest =>
    have hsmall : (isLower b || isDigit b) = false := by
      rw [← Bool.not_eq_true]
      intro h
      rw [not_isUpper_of_small h] at hb
      cases hb
    rw [spaceBeforeCapitals, hsmall, Bool.false_and, if_neg Bool.false_ne_true]

theorem spaceBeforeCapitals_cons_cons (a b : Char) (rest : List Char) :
    spaceBeforeCapitals (a :: b :: rest) =
      if (isLower a || isDigit a) && isUpper b then a :: ' ' :: spaceBeforeCapitals (b :: rest)
      else a :: spaceBeforeCapitals (b :: rest) := by
  rw [spaceBeforeCapitals]
  split
  · next h =>
    rw [Bool.and_eq_true] at h
    rw [spaceBeforeCapitals_of_isUpper h.2]
  · rfl

theorem head?_spaceBeforeCapitals (cs : List Char) :
    (spaceBeforeCapitals cs).head? = cs.head? := by
  match cs with
  | [] | [a] => rfl
  | a :: b :: rest =>
    rw [spaceBeforeCapitals_cons_cons]
    split <;> rfl

theorem spaceBeforeLastCapital_of_not_isUpper {a : Char} (ha : isUpper a = false)
    (rest : List Char) :
    spaceBeforeLastCapital (a :: rest) = a :: spaceBeforeLastCapital rest := by
  match rest with
  | [] | [b] => rfl
  | b :: c :: rest => rw [spaceBeforeLastCapital, ha, Bool.false_and, Bool.false_and,
      if_neg Bool.false_ne_true]

theorem spaceBeforeLastCapital_cons_cons (a b : Char) (rest : List Char) :
    spaceBeforeLastCapital (a :: b :: rest) =
      if isUpper a && isUpper b && rest.head?.any isLower then
        a :: ' ' :: spaceBeforeLastCapital (b :: rest)
      else a :: spaceBeforeLastCapital (b :: rest) := by
  cases rest with
  | nil => simp [spaceBeforeLastCapital]
  | cons c rest =>
    rw [spaceBeforeLastCapital, List.head?_cons, Option.any_some]
    split
    · next h =>
      rw [Bool.and_eq_true] at h
      have hc : isUpper c = false := not_isUpper_of_small (by rw [h.2, Bool.true_or])
      -- The small letter after the capital ends no word, so the search may go on behind it.
      have hb : spaceBeforeLastCapital (b :: c :: rest) =
          b :: spaceBeforeLastCapital (c :: rest) := by
        cases rest with
        | nil => rfl
        | cons d rest => rw [spaceBeforeLastCapital, hc, Bool.and_false, Bool.false_and,
            if_neg Bool.false_ne_true]
      rw [hb, spaceBeforeLastCapital_of_not_isUpper hc]
    · rfl

/-- A name with all its blanks. -/
def spaced (name : List Char) : List Char := spaceBeforeLastCapital (spaceBeforeCapitals name)

/-- Two substitutions put a blank where the rule for a single pass says that a word ends. -/
theorem spaced_cons_cons (a b : Char) (rest : List Char) :
    spaced (a :: b :: rest) =
      if cutsBefore a b rest.head? then a :: ' ' :: spaced (b :: rest)
      else a :: spaced (b :: rest) := by
  rw [spaced, spaceBeforeCapitals_cons_cons]
  cases hb : isUpper b with
  | false =>
    obtain ⟨after, hafter⟩ : ∃ after, spaceBeforeCapitals (b :: rest) = b :: after :=
      List.head?_eq_some_iff.mp (head?_spaceBeforeCapitals (b :: rest))
    rw [Bool.and_false, if_neg Bool.false_ne_true, spaced, hafter,
      spaceBeforeLastCapital_cons_cons]
    simp [cutsBefore, hb]
  | true =>
    have hafter := spaceBeforeCapitals_of_isUpper hb rest
    cases ha : isLower a || isDigit a with
    | true =>
      have hblank : isUpper ' ' = false := rfl
      rw [Bool.true_and, if_pos rfl,
        spaceBeforeLastCapital_of_not_isUpper (not_isUpper_of_small ha),
        spaceBeforeLastCapital_of_not_isUpper hblank]
      simp [cutsBefore, hb, ha, spaced]
    | false =>
      rw [Bool.false_and, if_neg Bool.false_ne_true, spaced, hafter,
        spaceBeforeLastCapital_cons_cons, head?_spaceBeforeCapitals]
      simp [cutsBefore, hb, ha]

theorem head?_spaced (name : List Char) : (spaced name).head? = name.head? := by
  match name with
  | [] | [a] => rfl
  | a :: b :: rest =>
    rw [spaced_cons_cons]
    split <;> rfl

theorem filter_spaced (name : List Char) :
    (spaced name).filter isWordChar = name.filter isWordChar := by
  induction name with
  | nil => rfl
  | cons a rest ih =>
    cases rest with
    | nil => rfl
    | cons b rest =>
      have hblank : isWordChar ' ' = false := rfl
      rw [spaced_cons_cons]
      split
      · simp only [List.filter_cons, hblank, ih]
        rfl
      · simp only [List.filter_cons, ih]

/-! ## One pass -/

theorem isWordChar_of_cutsBefore {a b : Char} {next : Option Char}
    (h : cutsBefore a b next = true) : isWordChar a = true ∧ isWordChar b = true := by
  simp only [cutsBefore, Bool.and_eq_true, Bool.or_eq_true] at h
  simp only [isWordChar, Bool.or_eq_true]
  refine ⟨?_, Or.inl (Or.inr h.1)⟩
  rcases h.2 with (ha | ha) | ⟨ha, -⟩ <;> simp [ha]

theorem cutsBefore_filter (a b : Char) (next : Option Char) :
    cutsBefore a b (next.filter isWordChar) = cutsBefore a b next := by
  cases next with
  | none => rfl
  | some c =>
    cases hc : isWordChar c with
    | true => rw [Option.filter_some_pos hc]
    | false =>
      have hlower : isLower c = false := by
        rw [isWordChar, Bool.or_eq_false_iff, Bool.or_eq_false_iff] at hc
        exact hc.1.1
      rw [Option.filter_some_neg (by simp [hc])]
      simp [cutsBefore, hlower]

theorem cutRun_cons_cons {a b : Char} {rest word : List Char} {others : List (List Char)}
    (h : cutRun (b :: rest) = word :: others) :
    cutRun (a :: b :: rest) =
      if cutsBefore a b rest.head? then [a] :: word :: others else (a :: word) :: others := by
  rw [cutRun, h]

theorem cutRun_of_head (a : Char) (rest : List Char) :
    ∃ word others, cutRun (a :: rest) = (a :: word) :: others ∧
      (word = [] ∨ word.head? = rest.head?) := by
  induction rest generalizing a with
  | nil => exact ⟨[], [], rfl, Or.inl rfl⟩
  | cons b rest ih =>
    obtain ⟨word, others, hword, -⟩ := ih b
    rw [cutRun_cons_cons hword]
    split
    · exact ⟨[], _, rfl, Or.inl rfl⟩
    · exact ⟨b :: word, others, rfl, Or.inr rfl⟩

/-! ## Where a run is cut -/

theorem flatten_cutRun (run : List Char) : (cutRun run).flatten = run := by
  induction run with
  | nil => rfl
  | cons a rest ih =>
    cases rest with
    | nil => rfl
    | cons b rest =>
      obtain ⟨word, others, hword, -⟩ := cutRun_of_head b rest
      rw [hword] at ih
      rw [cutRun_cons_cons hword, ← ih]
      split <;> rfl

/-- Some of the first words make up a text, so that a word ends behind it. -/
def EndsAfter (text : List Char) (ws : List (List Char)) : Prop :=
  ∃ first others, ws = first ++ others ∧ first.flatten = text

theorem endsAfter_singleton_cons {a : Char} {text : List Char} {ws : List (List Char)} :
    EndsAfter (a :: text) ([a] :: ws) ↔ EndsAfter text ws := by
  constructor
  · rintro ⟨first, others, hws, hfirst⟩
    cases first with
    | nil => cases hfirst
    | cons word first =>
      rw [List.cons_append, List.cons.injEq] at hws
      rw [← hws.1, List.flatten_cons, List.singleton_append, List.cons.injEq] at hfirst
      exact ⟨first, others, hws.2, hfirst.2⟩
  · rintro ⟨first, others, rfl, rfl⟩
    exact ⟨[a] :: first, others, rfl, rfl⟩

theorem endsAfter_cons_cons {a b : Char} {text word : List Char} {ws : List (List Char)}
    (htext : text ≠ []) :
    EndsAfter (a :: text) ((a :: b :: word) :: ws) ↔ EndsAfter text ((b :: word) :: ws) := by
  constructor
  · rintro ⟨first, others, hws, hfirst⟩
    cases first with
    | nil => cases hfirst
    | cons head first =>
      rw [List.cons_append, List.cons.injEq] at hws
      rw [← hws.1, List.flatten_cons, List.cons_append, List.cons.injEq] at hfirst
      exact ⟨(b :: word) :: first, others, by rw [hws.2]; rfl, hfirst.2⟩
  · rintro ⟨first, others, hws, rfl⟩
    cases first with
    | nil => exact absurd rfl htext
    | cons head first =>
      rw [List.cons_append, List.cons.injEq] at hws
      exact ⟨(a :: b :: word) :: first, others, by rw [hws.2]; rfl, by rw [← hws.1]; rfl⟩

theorem endsAfter_cutRun_iff (before : List Char) (a b : Char) (after : List Char) :
    EndsAfter (before ++ [a]) (cutRun (before ++ a :: b :: after)) ↔
      cutsBefore a b after.head? = true := by
  induction before with
  | nil =>
    obtain ⟨word, others, hword, -⟩ := cutRun_of_head b after
    rw [List.nil_append, List.nil_append, cutRun_cons_cons hword]
    split
    · next hcut => exact iff_of_true ⟨[[a]], _, rfl, rfl⟩ hcut
    · next hcut =>
      refine iff_of_false ?_ hcut
      -- The first word is longer than the one letter before the place.
      rintro ⟨first, others, hws, hfirst⟩
      cases first with
      | nil => cases hfirst
      | cons head first =>
        rw [List.cons_append, List.cons.injEq] at hws
        rw [← hws.1] at hfirst
        cases hfirst
  | cons c before ih =>
    have htext : before ++ [a] ≠ [] := List.append_ne_nil_of_right_ne_nil _ (List.cons_ne_nil _ _)
    obtain ⟨d, rest, hrest⟩ : ∃ d rest, before ++ a :: b :: after = d :: rest :=
      List.exists_cons_of_ne_nil (List.append_ne_nil_of_right_ne_nil _ (List.cons_ne_nil _ _))
    obtain ⟨word, others, hword, -⟩ := cutRun_of_head d rest
    rw [hrest, hword] at ih
    rw [List.cons_append, List.cons_append, hrest, cutRun_cons_cons hword, ← ih]
    split
    · exact endsAfter_singleton_cons
    · exact endsAfter_cons_cons htext

theorem cutRun_of_mem_cutRun {run word : List Char} (h : word ∈ cutRun run) :
    cutRun word = [word] := by
  induction run generalizing word with
  | nil => cases h
  | cons a rest ih =>
    cases rest with
    | nil =>
      rw [cutRun, List.mem_singleton] at h
      rw [h]
      rfl
    | cons b rest =>
      obtain ⟨first, others, hfirst, hnext⟩ := cutRun_of_head b rest
      rw [hfirst] at ih
      rw [cutRun_cons_cons hfirst] at h
      -- What follows its last letter can only make a word end sooner.
      split at h
      · rcases List.mem_cons.mp h with rfl | h
        · rfl
        · exact ih h
      · next hcut =>
        rcases List.mem_cons.mp h with rfl | h
        · rw [cutRun_cons_cons (ih List.mem_cons_self), if_neg]
          rcases hnext with rfl | hnext
          · intro hend
            refine hcut ?_
            simp only [cutsBefore, List.head?_nil, Option.any_none, Bool.and_false,
              Bool.or_false] at hend
            rw [Bool.and_eq_true] at hend
            rw [cutsBefore, hend.1, hend.2]
            rfl
          · rw [hnext]
            exact hcut
        · exact ih (List.mem_cons_of_mem _ h)

/-! ## The words -/

theorem words_cons_cons (a b : Char) (rest : List Char) :
    words (a :: b :: rest) =
      if cutsBefore a b rest.head? then runs isWordChar [a] ++ words (b :: rest)
      else runs isWordChar (a :: spaced (b :: rest)) := by
  rw [words, ← spaced, spaced_cons_cons]
  split
  · have hblank : isWordChar ' ' = false := rfl
    cases ha : isWordChar a with
    | false => rw [runs_skip ha, runs_skip ha, runs_skip hblank]; rfl
    | true => rw [runs_end ha hblank]; simp [runs, ha, words, spaced]
  · rfl

theorem words_eq_wordsByRun (name : List Char) : words name = wordsByRun name := by
  induction name with
  | nil => rfl
  | cons a rest ih =>
    cases rest with
    | nil =>
      cases ha : isWordChar a <;>
        simp [words, wordsByRun, runs, ha, cutRun, spaceBeforeCapitals, spaceBeforeLastCapital]
    | cons b rest =>
      obtain ⟨after, hafter⟩ : ∃ after, spaced (b :: rest) = b :: after :=
        List.head?_eq_some_iff.mp (head?_spaced (b :: rest))
      have hruns : runs isWordChar (b :: after) = wordsByRun (b :: rest) := hafter ▸ ih
      rw [words_cons_cons, ih, hafter]
      cases ha : isWordChar a with
      | false =>
        have hcut : ¬cutsBefore a b rest.head? = true := fun h =>
          Bool.false_ne_true (ha.symm.trans (isWordChar_of_cutsBefore h).1)
        rw [if_neg hcut, runs_skip ha, hruns, wordsByRun, wordsByRun, runs_skip ha]
      | true =>
        cases hb : isWordChar b with
        | false =>
          have hcut : ¬cutsBefore a b rest.head? = true := fun h =>
            Bool.false_ne_true (hb.symm.trans (isWordChar_of_cutsBefore h).2)
          rw [if_neg hcut, runs_end ha hb, ← runs_skip hb, hruns, wordsByRun, wordsByRun,
            runs_end ha hb, runs_skip hb]
          rfl
        | true =>
          -- The rule looks at the next character of the run, the substitutions at that of the name.
          obtain ⟨run, others, hrun, hnext⟩ := runs_of_head hb rest
          obtain ⟨word, more, hword, -⟩ := cutRun_of_head b run
          have hrest : wordsByRun (b :: rest) = (b :: word) :: (more ++ others.flatMap cutRun) := by
            rw [wordsByRun, hrun, List.flatMap_cons, hword]
            rfl
          have hall : wordsByRun (a :: b :: rest) =
              cutRun (a :: b :: run) ++ others.flatMap cutRun := by
            rw [wordsByRun, runs_extend ha hb hrun, List.flatMap_cons]
          rw [hall, cutRun_cons_cons hword, hnext, cutsBefore_filter]
          split
          · rw [hrest]
            simp [runs, ha]
          · rw [runs_extend ha hb (hruns.trans hrest)]
            rfl

theorem flatten_words (name : List Char) : (words name).flatten = name.filter isWordChar :=
  (flatten_runs _ _).trans (filter_spaced name)

theorem words_of_mem_words {name word : List Char} (h : word ∈ words name) :
    words word = [word] := by
  have hrun : runs isWordChar word = [word] :=
    runs_of_all (ne_nil_of_mem_runs h) (mem_words h)
  rw [words_eq_wordsByRun, wordsByRun] at h ⊢
  obtain ⟨run, -, hword⟩ := List.mem_flatMap.mp h
  rw [hrun, List.flatMap_singleton, cutRun_of_mem_cutRun hword]

/-- **The words of a name are found in one pass.** Its longest runs of letters and digits are cut
exactly where the rule says so. No word is empty, none is cut again, and together they are the
letters and digits of the name. -/
theorem words_in_one_pass (name : List Char) :
    words name = (runs isWordChar name).flatMap cutRun ∧
    (runs isWordChar name =
      (name.splitOnP fun c => !isWordChar c).filter fun piece => !piece.isEmpty) ∧
    (∀ run, (cutRun run).flatten = run) ∧
    (∀ before a b after, EndsAfter (before ++ [a]) (cutRun (before ++ a :: b :: after)) ↔
      isUpper b = true ∧ (isLower a = true ∨ isDigit a = true ∨
        isUpper a = true ∧ ∃ c, after.head? = some c ∧ isLower c = true)) ∧
    (∀ word ∈ words name, word ≠ [] ∧ words word = [word]) ∧
    (words name).flatten = name.filter isWordChar := by
  refine ⟨words_eq_wordsByRun name, runs_eq_splitOnP _ name, flatten_cutRun, ?_, ?_,
    flatten_words name⟩
  · intro before a b after
    rw [endsAfter_cutRun_iff]
    simp only [cutsBefore, Bool.and_eq_true, Bool.or_eq_true, Option.any_eq_true, or_assoc]
  · exact fun word hword => ⟨ne_nil_of_mem_runs hword, words_of_mem_words hword⟩

/-- A row of capitals, a digit before a capital, and characters that are in no word. -/
theorem words_in_one_pass_capitals :
    let name := "éparseHTTPResponse__v2Beta ".toList
    let word := "Response".toList
    words name = ["parse", "HTTP", "Response", "v2", "Beta"].map String.toList ∧
      word ∈ words name ∧ words word = [word] ∧
      (words name).flatten = "parseHTTPResponsev2Beta".toList := by
  intro name word
  have hwords : words name = ["parse", "HTTP", "Response", "v2", "Beta"].map String.toList := by
    decide +kernel
  obtain ⟨-, -, -, -, hword, hflatten⟩ := words_in_one_pass name
  have hmem : word ∈ words name := by
    rw [hwords]
    decide +kernel
  refine ⟨hwords, hmem, (hword word hmem).2, hflatten.trans ?_⟩
  decide +kernel

end SchemaTypings.Name
