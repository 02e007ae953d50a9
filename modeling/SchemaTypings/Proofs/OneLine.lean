import SchemaTypings.Proofs.Lines
import SchemaTypings.Proofs.Numerals
import SchemaTypings.Proofs.Spelling

/-!
# Texts on one line

Spelled names, numbers and quoted texts hold no line end. A value is written on one line if its own
text is, whatever it holds inside.
-/

namespace SchemaTypings

/-- A text without a line end. -/
def OneLine (s : String) : Prop := '\n' ∉ s.toList

instance : DecidablePred OneLine := fun _ => inferInstanceAs (Decidable (_ ∉ _))

@[simp] theorem oneLine_append {a b : String} : OneLine (a ++ b) ↔ OneLine a ∧ OneLine b := by
  unfold OneLine
  rw [String.toList_append, List.mem_append, not_or]

@[simp] theorem oneLine_ofList {cs : List Char} : OneLine (String.ofList cs) ↔ '\n' ∉ cs := by
  unfold OneLine
  rw [String.toList_ofList]

theorem oneLine_ite {p : Prop} [Decidable p] {a b : String} (ha : OneLine a) (hb : OneLine b) :
    OneLine (if p then a else b) := by
  split
  · exact ha
  · exact hb

theorem oneLine_intercalate {sep : String} {texts : List String} (hsep : OneLine sep)
    (h : ∀ t ∈ texts, OneLine t) : OneLine (sep.intercalate texts) := by
  unfold OneLine
  rw [String.toList_intercalate]
  intro hmem
  rcases Text.mem_join hmem with hmem | ⟨p, hp, hmem⟩
  · exact hsep hmem
  · obtain ⟨t, ht, rfl⟩ := List.mem_map.mp hp
    exact h t ht hmem

theorem oneLine_join {texts : List String} (h : ∀ t ∈ texts, OneLine t) :
    OneLine (String.join texts) := by
  unfold OneLine
  rw [String.toList_join]
  intro hmem
  obtain ⟨t, ht, hmem⟩ := List.mem_flatMap.mp hmem
  exact h t ht hmem

/-! ## Names -/

theorem notMem_of_isSpelled {cs : List Char} (h : ∀ c ∈ cs, isSpelled c = true) : '\n' ∉ cs :=
  fun hmem => absurd (h _ hmem) (by decide)

theorem NameStyle.isSpelled_convertParts {style : NameStyle} {name : List Char}
    (hname : ∀ c ∈ name, isSpelled c = true) (drop : Bool) :
    ∀ c ∈ style.convertParts name drop, isSpelled c = true := by
  have hparts : ∀ c ∈ Text.join ['_'] ((Text.cut '_' name).map style.convert),
      isSpelled c = true := by
    intro c hc
    rcases Text.mem_join hc with hc | ⟨p, hp, hc⟩
    · rw [List.mem_singleton.mp hc]
      rfl
    · obtain ⟨part, hpart, rfl⟩ := List.mem_map.mp hp
      exact isSpelled_convert (fun d hd => hname d ((Text.infix_of_mem_cut hpart).subset hd)) c hc
  unfold convertParts
  split
  · exact hname
  · split
    · exact isSpelled_convert hname
    · exact hparts

theorem oneLine_of_isName {s : String} (h : Sdl.isName s.toList = true) : OneLine s :=
  notMem_of_isSpelled fun c hc => isSpelled_of_isNamePart (Sdl.isNamePart_of_mem h c hc)

/-! ## Values -/

theorem oneLine_of_numeral {s : String} (h : Numeral s) : OneLine s := h.notMem (by decide)

namespace Value

theorem notMem_quotedChar {quote : Char} (hquote : quote ≠ '\n') (c : Char) :
    '\n' ∉ quotedChar quote c := by
  have hhex : ∀ count n, '\n' ∉ hexDigits count n := by
    intro count n hmem
    rcases List.mem_append.mp hmem with hmem | hmem
    · exact absurd (List.eq_of_mem_replicate hmem) (by decide)
    · exact absurd (isNumeral_of_mem_toDigits (by omega) (by omega) n _ hmem) (by decide)
  unfold quotedChar
  split
  · next hc =>
    have hne : '\n' ≠ c := by
      rintro rfl
      rcases hc with hc | hc
      · exact hquote hc.symm
      · exact absurd hc (by decide)
    simp [hne]
  split
  · decide
  split
  · decide
  split
  · decide
  split
  · next hline _ _ _ => simpa using Ne.symm hline
  · split
    · simp [hhex]
    · split <;> simp [hhex]

theorem oneLine_quoted (s : String) : OneLine (quoted s) := by
  have hmark : quoteMark s.toList ≠ '\n' := by
    unfold quoteMark
    split <;> decide
  unfold quoted
  simp only [oneLine_ofList, List.mem_cons, List.mem_append, List.mem_flatMap, List.not_mem_nil,
    or_false, not_or, not_exists, not_and]
  exact ⟨hmark.symm, fun c _ => notMem_quotedChar hmark c, hmark.symm⟩

mutual

theorem oneLine_inner : ∀ v : Value, OneLine v.inner
  | .null => by decide
  | .bool b => by cases b <;> decide
  | .int n => oneLine_of_numeral (numeral_int n)
  | .float x => oneLine_of_numeral x.numeral_text
  | .text s => oneLine_quoted s
  | .list items => by
    have hcomma : OneLine ", " := by decide
    have hitems := oneLine_intercalate hcomma (oneLine_innerItems items)
    have hmarks : OneLine "[" ∧ OneLine "]" := by decide
    simp [inner, hitems, hmarks]
  | .object fields => by
    have hcomma : OneLine ", " := by decide
    have hfields := oneLine_intercalate hcomma (oneLine_innerFields fields)
    have hmarks : OneLine "\x7b" ∧ OneLine "\x7d" := by decide
    simp [inner, hfields, hmarks]

theorem oneLine_innerItems : ∀ (items : List Value), ∀ t ∈ innerItems items, OneLine t
  | [] => nofun
  | v :: rest => List.forall_mem_cons.mpr ⟨oneLine_inner v, oneLine_innerItems rest⟩

theorem oneLine_innerFields : ∀ (fields : List (String × Value)), ∀ t ∈ innerFields fields, OneLine t
  | [] => nofun
  | (k, v) :: rest => by
    have hcolon : OneLine ": " := by decide
    have hfirst : OneLine (quoted k ++ ": " ++ inner v) := by
      simp [oneLine_quoted k, hcolon, oneLine_inner v]
    exact List.forall_mem_cons.mpr ⟨hfirst, oneLine_innerFields rest⟩

end

theorem oneLine_display {v : Value} (h : ∀ s, v = .text s → OneLine s) : OneLine v.display := by
  unfold display
  split
  · exact h _ rfl
  · exact oneLine_inner v

end Value

end SchemaTypings
