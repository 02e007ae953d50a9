import SchemaTypings.Code.Literal
import SchemaTypings.Proofs.Numerals

/-!
# Literals

The literal of a text stands in single quotes. It is read back one character after the other, where a
backslash lets the character after it stand for itself, and it ends at its last quote, whatever the
text holds and whatever comes after it.
-/

namespace SchemaTypings.Code

/-! ## Reading what stands between quotes -/

/-- A body and the text that it stands for: no quote is bare, and each backslash has a character
behind it. -/
inductive Spells : List Char → List Char → Prop where
  | nil : Spells [] []
  | plain {c : Char} {body text : List Char} (hslash : c ≠ '\\') (hquote : c ≠ '\'')
    (h : Spells body text) : Spells (c :: body) (c :: text)
  | escaped {c : Char} {body text : List Char} (h : Spells body text) :
    Spells ('\\' :: c :: body) (c :: text)

theorem spells_escapeQuoted (text : List Char) : Spells (escapeQuoted text) text := by
  induction text with
  | nil => exact .nil
  | cons c rest ih =>
    rw [escapeQuoted]
    split
    · exact .escaped ih
    · next hc =>
      rw [not_or] at hc
      exact .plain hc.1 hc.2 ih

/-- Behind an opening quote there is one body only, and so one place where it is closed. -/
theorem Spells.unique {body text : List Char} (h : Spells body text) {body' text' : List Char}
    (h' : Spells body' text') {after after' : List Char}
    (heq : body ++ '\'' :: after = body' ++ '\'' :: after') : text = text' ∧ after = after' := by
  induction h generalizing body' text' with
  | nil =>
    cases h' with
    | nil => simpa using heq
    | plain _ hquote _ => exact absurd (List.cons.inj heq).1.symm hquote
    | escaped _ => simp at heq
  | plain hslash hquote _ ih =>
    cases h' with
    | nil => exact absurd (List.cons.inj heq).1 hquote
    | plain _ _ h' =>
      simp only [List.cons_append, List.cons.injEq] at heq
      obtain ⟨rfl, heq⟩ := heq
      simpa using ih h' heq
    | escaped _ => exact absurd (List.cons.inj heq).1 hslash
  | escaped _ ih =>
    cases h' with
    | nil => simp at heq
    | plain hslash _ _ => exact absurd (List.cons.inj heq).1.symm hslash
    | escaped h' =>
      simp only [List.cons_append, List.cons.injEq, true_and] at heq
      obtain ⟨rfl, heq⟩ := heq
      simpa using ih h' heq

theorem unquoteBody_of_spells {body text : List Char} (h : Spells body text) :
    unquoteBody (body ++ ['\'']) = some text := by
  induction h with
  | nil => rfl
  | @plain c body text hslash hquote h ih =>
    rw [List.cons_append, unquoteBody, ih]
    · simp [hslash, hquote]
    · simp
    · simp [hslash]
  | @escaped c body text h ih => rw [List.cons_append, List.cons_append, unquoteBody, ih]; rfl

/-! ## Replacing -/

/-- Puts a backslash before each `mark`. -/
def guardMark (mark : Char) (text : List Char) : List Char :=
  text.flatMap fun c => if c = mark then ['\\', c] else [c]

theorem escapeQuoted_eq_guardMark (text : List Char) :
    escapeQuoted text = guardMark '\'' (guardMark '\\' text) := by
  have hslash : '\\' ≠ '\'' := by decide
  induction text with
  | nil => rfl
  | cons c rest ih =>
    unfold guardMark at ih ⊢
    rw [escapeQuoted, List.flatMap_cons, List.flatMap_append, ← ih]
    -- The backslash put in before a quote comes after the pass for backslashes.
    by_cases hc : c = '\\'
    · simp [hc, hslash]
    · by_cases hq : c = '\'' <;> simp [hc, hq]

/-! ## Literals -/

theorem toList_literal_text (v : String) :
    (literal (.text v)).toList = '\'' :: (escapeQuoted v.toList ++ ['\'']) := by
  simp [literal, quote, quoteChars, Value.display]

theorem numeral_ne_literal {s : String} (h : Numeral s) (v : String) : s ≠ literal (.text v) := by
  rintro rfl
  refine h.notMem (c := '\'') (by decide) ?_
  simp [toList_literal_text]

/-- **A text is read back from its literal, and nothing in the text ends the literal early.** -/
theorem literal_reads_back (v : String) :
    (∃ body, body = guardMark '\'' (guardMark '\\' v.toList) ∧
      (literal (.text v)).toList = '\'' :: (body ++ ['\'']) ∧ Spells body v.toList) ∧
    unquote (literal (.text v)).toList = some v.toList ∧
    (∀ body text after rest, Spells body text →
      '\'' :: (body ++ '\'' :: after) = (literal (.text v)).toList ++ rest →
        text = v.toList ∧ after = rest) ∧
    (∀ w, literal (.text w) = literal (.text v) ↔ w = v) ∧
    (∀ n, literal (.int n) ≠ literal (.text v)) ∧ ∀ x, literal (.float x) ≠ literal (.text v) := by
  have hspells := spells_escapeQuoted v.toList
  -- No proper start of the body is a body: the quotes in it are escaped.
  have hends : ∀ body text after rest, Spells body text →
      '\'' :: (body ++ '\'' :: after) = (literal (.text v)).toList ++ rest →
        text = v.toList ∧ after = rest := by
    intro body text after rest hbody heq
    rw [toList_literal_text] at heq
    refine hbody.unique hspells ?_
    simpa using heq
  refine ⟨⟨_, escapeQuoted_eq_guardMark _, toList_literal_text v, hspells⟩, ?_, hends, ?_, ?_, ?_⟩
  · rw [toList_literal_text, unquote]
    exact unquoteBody_of_spells hspells
  · refine fun w => ⟨fun heq => ?_, fun heq => by rw [heq]⟩
    have hw := hends _ _ [] [] (spells_escapeQuoted w.toList) (by simp [← heq, toList_literal_text])
    exact String.toList_inj.mp hw.1
  · exact fun n => numeral_ne_literal (numeral_int n) v
  · exact fun x => numeral_ne_literal x.numeral_text v

/-- A backslash before a quote, and one at the end. -/
example : literal (.text "\\'\\") = "'\\\\\\'\\\\'" := by decide

end SchemaTypings.Code
