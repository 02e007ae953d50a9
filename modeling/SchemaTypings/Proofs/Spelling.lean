import SchemaTypings.Name.Style
import SchemaTypings.Sdl.Token

/-!
# The characters of a spelled name

A name of the schema language has letters, digits and underscores. In each style its spelling has
these and at most hyphens besides, and so has the spelling of a spelling.
-/

namespace SchemaTypings

/-- A name of the schema language: a letter or an underscore, then these and digits. -/
def Sdl.isName : List Char → Bool
  | [] => false
  | c :: rest => isNameStart c && rest.all isNamePart

theorem Sdl.isNamePart_of_mem {name : List Char} (h : isName name = true) :
    ∀ c ∈ name, isNamePart c = true := by
  cases name with
  | nil => cases h
  | cons c rest =>
    rw [isName, Bool.and_eq_true, List.all_eq_true] at h
    refine List.forall_mem_cons.mpr ⟨?_, h.2⟩
    rw [isNamePart, h.1]
    rfl

/-! ## ASCII characters -/

theorem ascii_cases {P : Char → Prop} (h : ∀ n < 128, P (Char.ofNat n)) {c : Char}
    (hc : c.toNat < 128) : P c := by
  rw [← Char.ofNat_toNat c]
  exact h _ hc

namespace Text

theorem lowerAfter_ascii {before cs : List Char} (h : ∀ c ∈ cs, c.toNat < 128) :
    lowerAfter before cs = cs.map asciiLower := by
  induction cs generalizing before with
  | nil => rfl
  | cons c rest ih =>
    rw [List.forall_mem_cons] at h
    have hsigma : c ≠ 'Σ' := fun heq => absurd (heq ▸ h.1) (by decide)
    rw [lowerAfter, if_neg hsigma, lowerForm, if_pos h.1, ih h.2]
    rfl

theorem lower_ascii {cs : List Char} (h : ∀ c ∈ cs, c.toNat < 128) :
    lower cs = cs.map asciiLower := lowerAfter_ascii h

theorem upper_ascii {cs : List Char} (h : ∀ c ∈ cs, c.toNat < 128) :
    upper cs = cs.map asciiUpper := by
  induction cs with
  | nil => rfl
  | cons c rest ih =>
    rw [List.forall_mem_cons] at h
    rw [upper, List.flatMap_cons, upperForm, if_pos h.1]
    exact congrArg _ (ih h.2)

end Text

namespace Name

theorem toNat_of_isWordChar {c : Char} (h : isWordChar c = true) : c.toNat < 128 := by
  simp only [isWordChar, isLower, isUpper, isDigit, Bool.or_eq_true, Bool.and_eq_true,
    decide_eq_true_eq, Char.le_def, UInt32.le_iff_toNat_le] at h
  have hval : c.toNat = c.val.toNat := rfl
  simp at h
  omega

theorem isWordChar_asciiLower {c : Char} (h : isWordChar c = true) :
    isWordChar (Text.asciiLower c) = true :=
  ascii_cases (P := fun c => isWordChar c = true → isWordChar (Text.asciiLower c) = true)
    (by decide) (toNat_of_isWordChar h) h

theorem isWordChar_asciiUpper {c : Char} (h : isWordChar c = true) :
    isWordChar (Text.asciiUpper c) = true :=
  ascii_cases (P := fun c => isWordChar c = true → isWordChar (Text.asciiUpper c) = true)
    (by decide) (toNat_of_isWordChar h) h

/-! ## Words -/

theorem mem_runs {p : Char → Bool} {cs run : List Char} (h : run ∈ runs p cs) :
    ∀ c ∈ run, p c = true := by
  induction cs generalizing run with
  | nil => cases h
  | cons c rest ih =>
    unfold runs at h
    split at h
    · next hc =>
      split at h
      · next hruns =>
        have hfirst := ih (hruns ▸ List.mem_cons_self)
        have hothers := fun r hr => @ih r (hruns ▸ List.mem_cons_of_mem _ hr)
        split at h
        · rcases List.mem_cons.mp h with rfl | h
          · exact List.forall_mem_cons.mpr ⟨hc, hfirst⟩
          · exact hothers run h
        · rcases List.mem_cons.mp h with rfl | h
          · simpa using hc
          · exact ih (hruns ▸ h)
      · rcases List.mem_cons.mp h with rfl | h
        · simpa using hc
        · exact ih h
    · exact ih h

theorem mem_words {name word : List Char} (h : word ∈ words name) :
    ∀ c ∈ word, isWordChar c = true := mem_runs h

end Name

/-! ## Styles -/

/-- A character of a name in some style. -/
def isSpelled (c : Char) : Bool := Name.isWordChar c || c == '_' || c == '-'

theorem isSpelled_of_isWordChar {c : Char} (h : Name.isWordChar c = true) : isSpelled c = true := by
  rw [isSpelled, h]
  rfl

theorem isNamePart_iff {c : Char} :
    Sdl.isNamePart c = true ↔ Name.isWordChar c = true ∨ c = '_' := by
  have halpha : c.isAlpha = (Name.isLower c || Name.isUpper c) := by
    delta Char.isAlpha Char.isLower Char.isUpper
    rw [Bool.or_comm, Bool.eq_iff_iff]
    simp [Name.isLower, Name.isUpper, Char.le_def]
  have hdigit : Json.isDigit c = Name.isDigit c := rfl
  rw [Sdl.isNamePart, Sdl.isNameStart, Name.isWordChar, halpha, hdigit]
  simp only [Bool.or_eq_true, decide_eq_true_eq]
  exact or_right_comm

theorem isSpelled_of_isNamePart {c : Char} (h : Sdl.isNamePart c = true) : isSpelled c = true := by
  rcases isNamePart_iff.mp h with h | rfl
  · exact isSpelled_of_isWordChar h
  · rfl

theorem toNat_of_isSpelled {c : Char} (h : isSpelled c = true) : c.toNat < 128 := by
  simp only [isSpelled, Bool.or_eq_true, beq_iff_eq] at h
  rcases h with (h | rfl) | rfl
  · exact Name.toNat_of_isWordChar h
  · decide
  · decide

theorem isSpelled_asciiLower {c : Char} (h : isSpelled c = true) :
    isSpelled (Text.asciiLower c) = true :=
  ascii_cases (P := fun c => isSpelled c = true → isSpelled (Text.asciiLower c) = true)
    (by decide) (toNat_of_isSpelled h) h

theorem isSpelled_asciiUpper {c : Char} (h : isSpelled c = true) :
    isSpelled (Text.asciiUpper c) = true :=
  ascii_cases (P := fun c => isSpelled c = true → isSpelled (Text.asciiUpper c) = true)
    (by decide) (toNat_of_isSpelled h) h

theorem Text.mem_join {sep : List Char} {ps : List (List Char)} {c : Char}
    (hc : c ∈ Text.join sep ps) : c ∈ sep ∨ ∃ p ∈ ps, c ∈ p := by
  unfold Text.join at hc
  induction ps with
  | nil => cases hc
  | cons p rest ih =>
    cases rest with
    | nil =>
      rw [List.intercalate_singleton] at hc
      exact Or.inr ⟨p, List.mem_cons_self, hc⟩
    | cons q rest =>
      rw [List.intercalate_cons_cons] at hc
      rcases List.mem_append.mp hc with hc | hc
      · rcases List.mem_append.mp hc with hc | hc
        · exact Or.inr ⟨p, List.mem_cons_self, hc⟩
        · exact Or.inl hc
      · rcases ih hc with hc | ⟨r, hr, hc⟩
        · exact Or.inl hc
        · exact Or.inr ⟨r, List.mem_cons_of_mem _ hr, hc⟩

namespace NameStyle

theorem mem_capitalized {w : List Char} (hw : ∀ c ∈ w, Name.isWordChar c = true) {c : Char}
    (hc : c ∈ capitalized w) : Name.isWordChar c = true := by
  cases w with
  | nil => cases hc
  | cons d rest =>
    rcases List.mem_cons.mp hc with rfl | hc
    · exact Name.isWordChar_asciiUpper (hw d List.mem_cons_self)
    · obtain ⟨e, he, rfl⟩ := List.mem_map.mp hc
      exact Name.isWordChar_asciiLower (hw e (List.mem_cons_of_mem _ he))

theorem mem_laterWord {w : List Char} (hw : ∀ c ∈ w, Name.isWordChar c = true) {c : Char}
    (hc : c ∈ laterWord w) : isSpelled c = true := by
  cases w with
  | nil => cases hc
  | cons d rest =>
    rw [laterWord] at hc
    split at hc
    · rcases List.mem_cons.mp hc with rfl | hc
      · rfl
      · exact isSpelled_of_isWordChar (mem_capitalized hw hc)
    · exact isSpelled_of_isWordChar (mem_capitalized hw hc)

theorem mem_laterWords {words : List (List Char)}
    (hwords : ∀ w ∈ words, ∀ c ∈ w, Name.isWordChar c = true) :
    ∀ c ∈ words.flatMap laterWord, isSpelled c = true := by
  intro c hc
  obtain ⟨w, hw, hc⟩ := List.mem_flatMap.mp hc
  exact mem_laterWord (hwords w hw) hc

theorem mem_pascalWords {words : List (List Char)}
    (hwords : ∀ w ∈ words, ∀ c ∈ w, Name.isWordChar c = true) :
    ∀ c ∈ pascalWords words, isSpelled c = true := by
  intro c hc
  cases words with
  | nil => cases hc
  | cons first rest =>
    rw [List.forall_mem_cons] at hwords
    rcases List.mem_append.mp hc with hc | hc
    · exact isSpelled_of_isWordChar (mem_capitalized hwords.1 hc)
    · exact mem_laterWords hwords.2 c hc

theorem mem_camelWords {words : List (List Char)}
    (hwords : ∀ w ∈ words, ∀ c ∈ w, Name.isWordChar c = true) :
    ∀ c ∈ camelWords words, isSpelled c = true := by
  intro c hc
  cases words with
  | nil => cases hc
  | cons first rest =>
    rw [List.forall_mem_cons] at hwords
    rcases List.mem_append.mp hc with hc | hc
    · obtain ⟨d, hd, rfl⟩ := List.mem_map.mp hc
      exact isSpelled_of_isWordChar (Name.isWordChar_asciiLower (hwords.1 d hd))
    · exact mem_laterWords hwords.2 c hc

theorem mem_joined {sep : Char} (hsep : isSpelled sep = true) {f : Char → Char}
    (hf : ∀ c, Name.isWordChar c = true → Name.isWordChar (f c) = true) {words : List (List Char)}
    (hwords : ∀ w ∈ words, ∀ c ∈ w, Name.isWordChar c = true) :
    ∀ c ∈ Text.join [sep] (words.map fun w => w.map f), isSpelled c = true := by
  intro c hc
  rcases Text.mem_join hc with hc | ⟨p, hp, hc⟩
  · rw [List.mem_singleton.mp hc]
    exact hsep
  · obtain ⟨w, hw, rfl⟩ := List.mem_map.mp hp
    obtain ⟨d, hd, rfl⟩ := List.mem_map.mp hc
    exact isSpelled_of_isWordChar (hf d (hwords w hw d hd))

theorem mem_recased {f : Char → Char}
    (hf : ∀ c, isSpelled c = true → isSpelled (f c) = true) {name : List Char}
    (hname : ∀ c ∈ name, isSpelled c = true) : ∀ c ∈ name.map f, isSpelled c = true := by
  intro c hc
  obtain ⟨d, hd, rfl⟩ := List.mem_map.mp hc
  exact hf d (hname d hd)

theorem isSpelled_convert {style : NameStyle} {name : List Char}
    (hname : ∀ c ∈ name, isSpelled c = true) : ∀ c ∈ style.convert name, isSpelled c = true := by
  have hwords : ∀ w ∈ Name.words name, ∀ c ∈ w, Name.isWordChar c = true :=
    fun w hw => Name.mem_words hw
  have hascii : ∀ c ∈ name, c.toNat < 128 := fun c hc => toNat_of_isSpelled (hname c hc)
  cases style with
  | keep => exact hname
  | pascal => exact mem_pascalWords hwords
  | camel => exact mem_camelWords hwords
  | constant => exact mem_joined rfl (fun _ => Name.isWordChar_asciiUpper) hwords
  | snake | kebab => exact mem_joined rfl (fun _ => Name.isWordChar_asciiLower) hwords
  | lower =>
    have hlower : convert lower name = name.map Text.asciiLower := Text.lower_ascii hascii
    rw [hlower]
    exact mem_recased (fun _ => isSpelled_asciiLower) hname
  | upper =>
    have hupper : convert upper name = name.map Text.asciiUpper := Text.upper_ascii hascii
    rw [hupper]
    exact mem_recased (fun _ => isSpelled_asciiUpper) hname

theorem convertParts_dropUnderscores (style : NameStyle) (name : List Char) :
    style.convertParts name true = style.convert name := by
  cases style <;> rfl

end NameStyle

end SchemaTypings
