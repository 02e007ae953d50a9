import SchemaTypings.Proofs.EnumKeys
import SchemaTypings.Proofs.Lines
import SchemaTypings.Proofs.Words

/-!
# Names that change in letter case only

While underscores stay, a name of the schema language is converted part by part, and in most styles
a part keeps each of its characters but for the case of letters. So types with one identifier have
names that differ in letter case at most, and a converted name is an identifier.
-/

namespace SchemaTypings

/-! ## Letter for letter -/

namespace Name

def isLetter (c : Char) : Bool := isLower c || isUpper c

theorem asciiLower_of_not_isLetter {c : Char} (h : isLetter c = false) : Text.asciiLower c = c := by
  rw [isLetter, Bool.or_eq_false_iff] at h
  refine if_neg fun hc => ?_
  rw [isUpper, decide_eq_true hc.1, decide_eq_true hc.2] at h
  exact absurd h.2 (by decide)

theorem isWordChar_of_isLetter {c : Char} (h : isLetter c = true) : isWordChar c = true := by
  rw [isWordChar, show (isLower c || isUpper c) = true from h, Bool.true_or]

theorem of_asciiLower {P : Char → Prop} (h : ∀ n < 128, P (Char.ofNat n))
    (hother : ∀ c, Text.asciiLower c = c → P c) (c : Char) : P c := by
  cases hc : isLetter c with
  | true => exact ascii_cases h (toNat_of_isWordChar (isWordChar_of_isLetter hc))
  | false => exact hother c (asciiLower_of_not_isLetter hc)

theorem isLetter_asciiLower (c : Char) : isLetter (Text.asciiLower c) = isLetter c :=
  of_asciiLower (P := fun c => isLetter (Text.asciiLower c) = isLetter c) (by decide)
    (fun c h => by rw [h]) c

theorem isNamePart_asciiLower (c : Char) :
    Sdl.isNamePart (Text.asciiLower c) = Sdl.isNamePart c :=
  of_asciiLower (P := fun c => Sdl.isNamePart (Text.asciiLower c) = Sdl.isNamePart c) (by decide)
    (fun c h => by rw [h]) c

theorem isNameStart_asciiLower (c : Char) :
    Sdl.isNameStart (Text.asciiLower c) = Sdl.isNameStart c :=
  of_asciiLower (P := fun c => Sdl.isNameStart (Text.asciiLower c) = Sdl.isNameStart c) (by decide)
    (fun c h => by rw [h]) c

theorem asciiLower_asciiUpper {c : Char} (h : isWordChar c = true) :
    Text.asciiLower (Text.asciiUpper c) = Text.asciiLower c :=
  ascii_cases (P := fun c => Text.asciiLower (Text.asciiUpper c) = Text.asciiLower c) (by decide)
    (toNat_of_isWordChar h)

end Name

namespace Text

/-- Equal characters, or two cases of one ASCII letter. -/
def SameLetter (c d : Char) : Prop :=
  c = d ∨ Name.isLetter c = true ∧ Name.isLetter d = true ∧ asciiLower c = asciiLower d

/-- Two texts that are as long and have the same letter at each place, or the same character. -/
def SameButCase (a b : List Char) : Prop := List.Forall₂ SameLetter a b

theorem sameLetter_iff {c d : Char} : SameLetter c d ↔ asciiLower c = asciiLower d := by
  constructor
  · rintro (rfl | ⟨-, -, h⟩)
    · rfl
    · exact h
  · intro h
    have hletter : Name.isLetter c = Name.isLetter d := by
      rw [← Name.isLetter_asciiLower c, h, Name.isLetter_asciiLower]
    cases hd : Name.isLetter d with
    | true => exact Or.inr ⟨hletter.trans hd, hd, h⟩
    | false =>
      rw [Name.asciiLower_of_not_isLetter hd,
        Name.asciiLower_of_not_isLetter (hletter.trans hd)] at h
      exact Or.inl h

theorem sameButCase_iff {a b : List Char} :
    SameButCase a b ↔ a.map asciiLower = b.map asciiLower := by
  have hletter : SameLetter = fun c d => asciiLower c = asciiLower d := by
    funext c d
    exact propext sameLetter_iff
  rw [SameButCase, hletter, ← List.forall₂_eq_eq_eq, List.forall₂_map_left_iff,
    List.forall₂_map_right_iff]

theorem SameButCase.refl (a : List Char) : SameButCase a a := sameButCase_iff.mpr rfl

theorem SameButCase.symm {a b : List Char} (h : SameButCase a b) : SameButCase b a :=
  sameButCase_iff.mpr (sameButCase_iff.mp h).symm

theorem SameButCase.trans {a b c : List Char} (hab : SameButCase a b) (hbc : SameButCase b c) :
    SameButCase a c :=
  sameButCase_iff.mpr ((sameButCase_iff.mp hab).trans (sameButCase_iff.mp hbc))

theorem SameButCase.append {a b c d : List Char} (hac : SameButCase a c) (hbd : SameButCase b d) :
    SameButCase (a ++ b) (c ++ d) := by
  rw [sameButCase_iff, List.map_append, List.map_append, sameButCase_iff.mp hac,
    sameButCase_iff.mp hbd]

theorem sameButCase_map {f : Char → Char} {a : List Char}
    (h : ∀ c ∈ a, asciiLower (f c) = asciiLower c) : SameButCase (a.map f) a := by
  rw [sameButCase_iff, List.map_map]
  exact List.map_congr_left h

theorem rel_join {R : List Char → List Char → Prop} (hrefl : ∀ a, R a a)
    (happend : ∀ {a b c d}, R a c → R b d → R (a ++ b) (c ++ d)) (sep : List Char)
    {f : List Char → List Char} {ps : List (List Char)} (h : ∀ p ∈ ps, R (f p) p) :
    R (join sep (ps.map f)) (join sep ps) := by
  unfold join
  induction ps with
  | nil => exact hrefl []
  | cons p ps ih =>
    rw [List.forall_mem_cons] at h
    cases ps with
    | nil => simpa using h.1
    | cons q ps =>
      rw [List.map_cons, List.map_cons, List.intercalate_cons_cons, List.intercalate_cons_cons]
      exact happend (happend h.1 (hrefl sep)) (ih h.2)

theorem SameButCase.all_isNamePart {a b : List Char} (h : SameButCase a b)
    (hb : ∀ c ∈ b, Sdl.isNamePart c = true) : ∀ c ∈ a, Sdl.isNamePart c = true := by
  intro c hc
  have hmem := List.mem_map_of_mem (f := asciiLower) hc
  rw [sameButCase_iff.mp h] at hmem
  obtain ⟨d, hd, hcd⟩ := List.mem_map.mp hmem
  rw [← Name.isNamePart_asciiLower, ← hcd, Name.isNamePart_asciiLower]
  exact hb d hd

end Text

/-! ## One part -/

namespace Name

theorem head_later_word {a : Char} {rest first : List Char} {others : List (List Char)}
    (h : cutRun (a :: rest) = first :: others) :
    ∀ word ∈ others, ∃ c tail, word = c :: tail ∧ isUpper c = true := by
  induction rest generalizing a first others with
  | nil =>
    cases h
    exact List.forall_mem_nil _
  | cons b rest ih =>
    obtain ⟨word, more, hword, -⟩ := cutRun_of_head b rest
    have hlater := ih hword
    rw [cutRun_cons_cons hword] at h
    split at h
    · next hcut =>
      obtain ⟨-, rfl⟩ := List.cons.inj h
      refine List.forall_mem_cons.mpr ⟨⟨b, word, rfl, ?_⟩, hlater⟩
      rw [cutsBefore, Bool.and_eq_true] at hcut
      exact hcut.1
    · obtain ⟨-, rfl⟩ := List.cons.inj h
      exact hlater

theorem words_of_all {part : List Char} (h : ∀ c ∈ part, isWordChar c = true) :
    words part = cutRun part := by
  rw [words_eq_wordsByRun, wordsByRun]
  cases part with
  | nil => rfl
  | cons c rest => rw [runs_of_all (List.cons_ne_nil _ _) h, List.flatMap_singleton]

end Name

namespace NameStyle

open Text (SameButCase)

/-- The styles that leave each character of a part in its place. -/
def inPlace : List NameStyle := [keep, pascal, camel, lower, upper]

theorem sameButCase_capitalized {word : List Char} (h : ∀ c ∈ word, Name.isWordChar c = true) :
    SameButCase (capitalized word) word := by
  cases word with
  | nil => exact .refl []
  | cons c rest =>
    rw [List.forall_mem_cons] at h
    rw [Text.sameButCase_iff, capitalized, List.map_cons, List.map_cons, List.map_map,
      Name.asciiLower_asciiUpper h.1]
    exact congrArg _ (List.map_congr_left fun d hd => Name.asciiLower_asciiLower (h.2 d hd))

theorem sameButCase_laterWords {ws : List (List Char)}
    (hwords : ∀ w ∈ ws, ∀ c ∈ w, Name.isWordChar c = true)
    (hupper : ∀ w ∈ ws, ∃ c tail, w = c :: tail ∧ Name.isUpper c = true) :
    SameButCase (ws.flatMap laterWord) ws.flatten := by
  induction ws with
  | nil => exact .refl []
  | cons w ws ih =>
    rw [List.forall_mem_cons] at hwords hupper
    rw [List.flatMap_cons, List.flatten_cons]
    refine Text.SameButCase.append ?_ (ih hwords.2 hupper.2)
    obtain ⟨c, tail, rfl, hc⟩ := hupper.1
    -- It begins with a capital and so with no digit: no underscore is put in.
    have hdigit : Name.isDigit c = false := by
      rw [← Bool.not_eq_true]
      intro hd
      rw [Name.not_isUpper_of_small (by rw [hd, Bool.or_true])] at hc
      cases hc
    rw [laterWord, hdigit, if_neg Bool.false_ne_true]
    exact sameButCase_capitalized hwords.1

theorem exists_first_word {a : Char} {rest : List Char}
    (h : ∀ c ∈ a :: rest, Name.isWordChar c = true) :
    ∃ first others, Name.words (a :: rest) = first :: others ∧
      (∀ c ∈ first, Name.isWordChar c = true) ∧
      ∀ recased, SameButCase recased first →
        SameButCase (recased ++ others.flatMap laterWord) (a :: rest) := by
  obtain ⟨word, others, hcut, -⟩ := Name.cutRun_of_head a rest
  have hwords : Name.words (a :: rest) = (a :: word) :: others := (Name.words_of_all h).trans hcut
  have hmem : ∀ w ∈ (a :: word) :: others, ∀ c ∈ w, Name.isWordChar c = true :=
    fun w hw => Name.mem_words (hwords ▸ hw)
  rw [List.forall_mem_cons] at hmem
  refine ⟨a :: word, others, hwords, hmem.1, fun recased hrecased => ?_⟩
  have hflatten := Name.flatten_cutRun (a :: rest)
  rw [hcut] at hflatten
  rw [← hflatten]
  exact hrecased.append (sameButCase_laterWords hmem.2 (Name.head_later_word hcut))

theorem sameButCase_lower {part : List Char} (h : ∀ c ∈ part, Name.isWordChar c = true) :
    SameButCase (part.map Text.asciiLower) part :=
  Text.sameButCase_map fun c hc => Name.asciiLower_asciiLower (h c hc)

theorem sameButCase_convert {style : NameStyle} (hstyle : style ∈ inPlace) {part : List Char}
    (h : ∀ c ∈ part, Name.isWordChar c = true) : SameButCase (style.convert part) part := by
  have hascii : ∀ c ∈ part, c.toNat < 128 := fun c hc => Name.toNat_of_isWordChar (h c hc)
  cases style with
  | keep => exact .refl part
  | pascal =>
    cases part with
    | nil => exact .refl []
    | cons a rest =>
      obtain ⟨first, others, hwords, hfirst, hjoined⟩ := exists_first_word h
      rw [convert, hwords]
      exact hjoined _ (sameButCase_capitalized hfirst)
  | camel =>
    cases part with
    | nil => exact .refl []
    | cons a rest =>
      obtain ⟨first, others, hwords, hfirst, hjoined⟩ := exists_first_word h
      rw [convert, hwords]
      exact hjoined _ (sameButCase_lower hfirst)
  | lower =>
    rw [convert, Text.lower_ascii hascii]
    exact sameButCase_lower h
  | upper =>
    rw [convert, Text.upper_ascii hascii]
    exact Text.sameButCase_map fun c hc => Name.asciiLower_asciiUpper (h c hc)
  | constant | snake | kebab => exact absurd hstyle (by decide)

/-! ## Whole names -/

theorem convertParts_keepUnderscores (style : NameStyle) (name : List Char) :
    style.convertParts name false =
      Text.join ['_'] ((Text.cut '_' name).map style.convert) := by
  cases style with
  | keep =>
    have hkeep : (Text.cut '_' name).map keep.convert = Text.cut '_' name :=
      List.map_id (Text.cut '_' name)
    rw [hkeep, Text.join_cut]
    rfl
  | _ => rfl

theorem isWordChar_of_mem_cut {name part : List Char} (hname : ∀ c ∈ name, Sdl.isNamePart c = true)
    (hpart : part ∈ Text.cut '_' name) : ∀ c ∈ part, Name.isWordChar c = true := by
  intro c hc
  have hmem : c ∈ name := (Text.infix_of_mem_cut hpart).subset hc
  refine (isNamePart_iff.mp (hname c hmem)).resolve_right ?_
  rintro rfl
  exact Text.notMem_of_mem_cut hpart hc

theorem sameButCase_convertParts {style : NameStyle} (hstyle : style ∈ inPlace) {name : List Char}
    (hname : ∀ c ∈ name, Sdl.isNamePart c = true) :
    SameButCase (style.convertParts name false) name := by
  have hparts := Text.rel_join SameButCase.refl SameButCase.append ['_'] fun part hpart =>
    sameButCase_convert hstyle (isWordChar_of_mem_cut hname hpart)
  rwa [Text.join_cut, ← convertParts_keepUnderscores] at hparts

end NameStyle

/-! ## Names that stay names -/

namespace Sdl

theorem isName_iff {cs : List Char} :
    isName cs = true ↔ (∀ c ∈ cs, isNamePart c = true) ∧ cs.head?.any isNameStart = true := by
  refine ⟨fun h => ⟨isNamePart_of_mem h, ?_⟩, fun h => ?_⟩
  · cases cs with
    | nil => cases h
    | cons c rest =>
      rw [isName, Bool.and_eq_true] at h
      exact h.1
  · cases cs with
    | nil => cases h.2
    | cons c rest =>
      rw [isName, Bool.and_eq_true, List.all_eq_true]
      exact ⟨h.2, (List.forall_mem_cons.mp h.1).2⟩

theorem isName_append {a b : List Char} (ha : isName a = true)
    (hb : ∀ c ∈ b, isNamePart c = true) : isName (a ++ b) = true := by
  rw [isName_iff] at ha ⊢
  refine ⟨List.forall_mem_append.mpr ⟨ha.1, hb⟩, ?_⟩
  cases a with
  | nil => cases ha.2
  | cons c rest => exact ha.2

end Sdl

/-- Two texts are empty, or they begin with the same letter or character. -/
def Text.SameHead (a b : List Char) : Prop := a.head?.map asciiLower = b.head?.map asciiLower

theorem Text.SameHead.refl (a : List Char) : SameHead a a := rfl

theorem Text.SameButCase.sameHead {a b : List Char} (h : SameButCase a b) : SameHead a b := by
  rw [SameHead, ← List.head?_map, sameButCase_iff.mp h, List.head?_map]

theorem Text.SameHead.append {a b c d : List Char} (hac : SameHead a c) (hbd : SameHead b d) :
    SameHead (a ++ b) (c ++ d) := by
  rw [SameHead, List.head?_append, List.head?_append, Option.map_or, Option.map_or, hac, hbd]

namespace NameStyle

open Text (SameHead)

theorem sameHead_joinedWords {f : Char → Char}
    (hf : ∀ c, Name.isWordChar c = true → Text.asciiLower (f c) = Text.asciiLower c)
    {part : List Char} (h : ∀ c ∈ part, Name.isWordChar c = true) :
    SameHead (Text.join ['_'] ((Name.words part).map fun w => w.map f)) part := by
  cases part with
  | nil => rfl
  | cons a rest =>
    obtain ⟨word, others, hcut, -⟩ := Name.cutRun_of_head a rest
    rw [Name.words_of_all h, hcut]
    have hhead : Text.asciiLower (f a) = Text.asciiLower a := hf a (h a List.mem_cons_self)
    cases others with
    | nil => simp [SameHead, Text.join, hhead]
    | cons w others => simp [SameHead, Text.join, List.intercalate_cons_cons, hhead]

theorem isNamePart_joinedWords {f : Char → Char}
    (hf : ∀ c, Name.isWordChar c = true → Name.isWordChar (f c) = true) (part : List Char) :
    ∀ c ∈ Text.join ['_'] ((Name.words part).map fun w => w.map f), Sdl.isNamePart c = true := by
  intro c hc
  rcases Text.mem_join hc with hc | ⟨p, hp, hc⟩
  · rw [List.mem_singleton.mp hc]
    decide
  · obtain ⟨w, hw, rfl⟩ := List.mem_map.mp hp
    obtain ⟨d, hd, rfl⟩ := List.mem_map.mp hc
    exact isNamePart_iff.mpr (Or.inl (hf d (Name.mem_words hw d hd)))

/-- All styles but one spell a part with the characters of names and begin as the part does. -/
theorem spells_part {style : NameStyle} (hstyle : style ≠ kebab) {part : List Char}
    (h : ∀ c ∈ part, Name.isWordChar c = true) :
    (∀ c ∈ style.convert part, Sdl.isNamePart c = true) ∧ SameHead (style.convert part) part := by
  have hpart : ∀ c ∈ part, Sdl.isNamePart c = true :=
    fun c hc => isNamePart_iff.mpr (Or.inl (h c hc))
  have hinPlace (hmem : style ∈ inPlace) : (∀ c ∈ style.convert part, Sdl.isNamePart c = true) ∧
      SameHead (style.convert part) part :=
    have hsame := sameButCase_convert hmem h
    ⟨hsame.all_isNamePart hpart, hsame.sameHead⟩
  cases style with
  | keep | pascal | camel | lower | upper => exact hinPlace (by decide)
  | constant =>
    exact ⟨isNamePart_joinedWords (fun _ => Name.isWordChar_asciiUpper) part,
      sameHead_joinedWords (fun _ => Name.asciiLower_asciiUpper) h⟩
  | snake =>
    exact ⟨isNamePart_joinedWords (fun _ => Name.isWordChar_asciiLower) part,
      sameHead_joinedWords (fun _ => Name.asciiLower_asciiLower) h⟩
  | kebab => exact absurd rfl hstyle

theorem isName_convertParts {style : NameStyle} (hstyle : style ≠ kebab) {name : List Char}
    (hname : Sdl.isName name = true) : Sdl.isName (style.convertParts name false) = true := by
  obtain ⟨hparts, hstart⟩ := Sdl.isName_iff.mp hname
  have hspells : ∀ part ∈ Text.cut '_' name, (∀ c ∈ style.convert part, Sdl.isNamePart c = true) ∧
      SameHead (style.convert part) part :=
    fun part hpart => spells_part hstyle (isWordChar_of_mem_cut hparts hpart)
  have hhead : SameHead (style.convertParts name false) name := by
    rw [convertParts_keepUnderscores]
    conv => rhs; rw [← Text.join_cut '_' name]
    exact Text.rel_join SameHead.refl SameHead.append ['_']
      fun part hpart => (hspells part hpart).2
  -- Whether a character can begin a name does not depend on its case.
  have hany : ∀ cs : List Char, cs.head?.any Sdl.isNameStart =
      (cs.head?.map Text.asciiLower).any Sdl.isNameStart := by
    intro cs
    cases cs with
    | nil => rfl
    | cons c rest => exact (Name.isNameStart_asciiLower c).symm
  refine Sdl.isName_iff.mpr ⟨?_, ?_⟩
  · rw [convertParts_keepUnderscores]
    intro c hc
    rcases Text.mem_join hc with hc | ⟨p, hp, hc⟩
    · rw [List.mem_singleton.mp hc]
      decide
    · obtain ⟨part, hpart, rfl⟩ := List.mem_map.mp hp
      exact (hspells part hpart).1 c hc
  · rw [hany, hhead, ← hany]
    exact hstart

end NameStyle

/-! ## Identifiers -/

theorem isIdentifierPart_of_isNamePart {c : Char} (h : Sdl.isNamePart c = true) :
    Name.isIdentifierPart c = true :=
  ascii_cases (P := fun c => Sdl.isNamePart c = true → Name.isIdentifierPart c = true) (by decide)
    (toNat_of_isSpelled (isSpelled_of_isNamePart h)) h

theorem isIdentifierStart_of_isNameStart {c : Char} (h : Sdl.isNameStart c = true) :
    Name.isIdentifierStart c = true := by
  have hpart : Sdl.isNamePart c = true := by rw [Sdl.isNamePart, h, Bool.true_or]
  exact ascii_cases (P := fun c => Sdl.isNameStart c = true → Name.isIdentifierStart c = true)
    (by decide) (toNat_of_isSpelled (isSpelled_of_isNamePart hpart)) h

theorem Code.isIdentifier_of_isName {name : String} (h : Sdl.isName name.toList = true) :
    IsIdentifier name := by
  obtain ⟨hparts, hstart⟩ := Sdl.isName_iff.mp h
  unfold IsIdentifier
  cases hlist : name.toList with
  | nil =>
    rw [hlist] at hstart
    cases hstart
  | cons c rest =>
    rw [hlist] at hparts hstart
    exact ⟨c, rest, rfl, isIdentifierStart_of_isNameStart hstart, fun d hd =>
      isIdentifierPart_of_isNamePart (hparts d (List.mem_cons_of_mem _ hd))⟩

namespace Settings

open Code (IsIdentifier)
open NameStyle (inPlace)
open Text (SameButCase)

variable {s : Settings}

/-- What a name becomes between the prefix and the suffix of an identifier. -/
def converted (s : Settings) (name : String) : String :=
  s.naming.typeNames.applyParts name s.naming.dropUnderscores

theorem typeName_eq (s : Settings) (name : String) :
    s.typeName name = s.typesPrefix ++ s.converted name ++ s.typesSuffix := rfl

theorem convertName_bareForm (s : Settings) (name : String) :
    s.convertName name bareForm = s.converted name := by
  have hbare : s.convertName name bareForm = "" ++ s.converted name ++ "" := rfl
  rw [hbare, String.empty_append, String.append_empty]

theorem argsName_eq (s : Settings) (owner field : String) :
    s.argsName owner field = s.typeName (s.argsBase owner (s.converted field)) := by
  rw [argsName, convertName_bareForm]
  rfl

theorem toList_converted (hdrop : s.naming.dropUnderscores = false) (name : String) :
    (s.converted name).toList = s.naming.typeNames.convertParts name.toList false := by
  rw [converted, hdrop, NameStyle.applyParts, String.toList_ofList]

theorem toList_argsBase (s : Settings) (owner : String) :
    ∃ mark, (∀ c ∈ mark, Sdl.isNamePart c = true) ∧ ∀ part : String,
      (s.argsBase owner part).toList = owner.toList ++ mark ++ part.toList ++ "Args".toList := by
  refine ⟨(if s.underscoreBeforeArgs then "_" else "").toList, ?_, fun part => ?_⟩
  · split
    · exact List.forall_mem_singleton.mpr (by decide)
    · exact List.forall_mem_nil _
  · simp only [argsBase, String.toList_append]

theorem isName_argsBase {owner part : String} (howner : Sdl.isName owner.toList = true)
    (hpart : ∀ c ∈ part.toList, Sdl.isNamePart c = true) :
    Sdl.isName (s.argsBase owner part).toList = true := by
  obtain ⟨mark, hmark, hbase⟩ := s.toList_argsBase owner
  have hend : ∀ c ∈ "Args".toList, Sdl.isNamePart c = true :=
    Sdl.isNamePart_of_mem (show Sdl.isName "Args".toList = true by decide)
  rw [hbase]
  exact Sdl.isName_append (Sdl.isName_append (Sdl.isName_append howner hmark) hpart) hend

theorem sameButCase_converted (hdrop : s.naming.dropUnderscores = false)
    (hstyle : s.naming.typeNames ∈ inPlace) {name : String}
    (hname : ∀ c ∈ name.toList, Sdl.isNamePart c = true) :
    SameButCase (s.converted name).toList name.toList := by
  rw [toList_converted hdrop]
  exact NameStyle.sameButCase_convertParts hstyle hname

theorem sameButCase_of_typeName_eq (hdrop : s.naming.dropUnderscores = false)
    (hstyle : s.naming.typeNames ∈ inPlace) {name other : String}
    (hname : ∀ c ∈ name.toList, Sdl.isNamePart c = true)
    (hother : ∀ c ∈ other.toList, Sdl.isNamePart c = true)
    (h : s.typeName name = s.typeName other) : SameButCase name.toList other.toList := by
  have hmiddle : s.converted name = s.converted other := by
    rw [typeName_eq, typeName_eq] at h
    exact (String.append_right_inj _).mp ((String.append_left_inj _).mp h)
  refine (sameButCase_converted hdrop hstyle hname).symm.trans ?_
  rw [hmiddle]
  exact sameButCase_converted hdrop hstyle hother

/-- The field of an argument bag is converted twice; no difference but that of case gets lost. -/
theorem sameButCase_of_argsName_eq (hdrop : s.naming.dropUnderscores = false)
    (hstyle : s.naming.typeNames ∈ inPlace) {owner field other : String}
    (howner : Sdl.isName owner.toList = true)
    (hfield : ∀ c ∈ field.toList, Sdl.isNamePart c = true)
    (hother : ∀ c ∈ other.toList, Sdl.isNamePart c = true)
    (h : s.argsName owner field = s.argsName owner other) :
    SameButCase field.toList other.toList := by
  have hpart := sameButCase_converted hdrop hstyle hfield
  have hotherPart := sameButCase_converted hdrop hstyle hother
  have hbase := isName_argsBase (s := s) howner (hpart.all_isNamePart hfield)
  have hotherBase := isName_argsBase (s := s) howner (hotherPart.all_isNamePart hother)
  rw [argsName_eq, argsName_eq] at h
  have hbases := sameButCase_of_typeName_eq hdrop hstyle (Sdl.isNamePart_of_mem hbase)
    (Sdl.isNamePart_of_mem hotherBase) h
  -- The bags have owner, mark and ending in common, so the fields are left.
  obtain ⟨mark, -, htoList⟩ := s.toList_argsBase owner
  rw [Text.sameButCase_iff, htoList, htoList] at hbases
  simp only [List.map_append, List.append_cancel_right_eq, List.append_cancel_left_eq] at hbases
  exact hpart.symm.trans ((Text.sameButCase_iff.mpr hbases).trans hotherPart)

theorem isName_converted (hdrop : s.naming.dropUnderscores = false)
    (hstyle : s.naming.typeNames ≠ .kebab) {name : String}
    (hname : Sdl.isName name.toList = true) : Sdl.isName (s.converted name).toList = true := by
  rw [toList_converted hdrop]
  exact NameStyle.isName_convertParts hstyle hname

theorem isIdentifier_typeName (hdrop : s.naming.dropUnderscores = false)
    (hstyle : s.naming.typeNames ≠ .kebab) (hnone : s.typesPrefix = "")
    (hsuffix : s.typesSuffix = "") {name : String} (hname : Sdl.isName name.toList = true) :
    IsIdentifier (s.typeName name) := by
  rw [typeName_eq, hnone, hsuffix, String.empty_append, String.append_empty]
  exact Code.isIdentifier_of_isName (isName_converted hdrop hstyle hname)

theorem enumName_eq (hnone : s.typesPrefix = "") (name : String) :
    s.enumName name = s.typeName name := by
  have henum : s.enumName name =
      (if s.enumPrefix then s.typesPrefix else "") ++ s.converted name ++ s.typesSuffix := rfl
  rw [henum, typeName_eq, hnone, ite_self]

/-- **While underscores stay, a name changes in letter case only.** In the styles that leave each
character in its place this holds of the whole name, so names with one identifier differ in case at
most, be they types or the fields of one owner. In all styles but one, a name without prefix and
suffix becomes an identifier. -/
theorem names_keep_letters (hdrop : s.naming.dropUnderscores = false) :
    (s.naming.typeNames ∈ inPlace →
      (∀ name, Sdl.isName name.toList = true →
        s.typeName name = s.typesPrefix ++ s.converted name ++ s.typesSuffix ∧
          SameButCase (s.converted name).toList name.toList) ∧
      (∀ name other, Sdl.isName name.toList = true → Sdl.isName other.toList = true →
        s.typeName name = s.typeName other → SameButCase name.toList other.toList) ∧
      ∀ owner field other, Sdl.isName owner.toList = true → Sdl.isName field.toList = true →
        Sdl.isName other.toList = true → s.argsName owner field = s.argsName owner other →
          SameButCase field.toList other.toList) ∧
    (s.naming.typeNames ≠ .kebab → s.typesPrefix = "" → s.typesSuffix = "" →
      ∀ name, Sdl.isName name.toList = true →
        IsIdentifier (s.typeName name) ∧ IsIdentifier (s.enumName name) ∧
          ∀ field, Sdl.isName field.toList = true → IsIdentifier (s.argsName name field)) := by
  refine ⟨fun hstyle => ⟨fun name hname => ⟨typeName_eq s name, ?_⟩, ?_, ?_⟩, ?_⟩
  · exact sameButCase_converted hdrop hstyle (Sdl.isNamePart_of_mem hname)
  · intro name other hname hother h
    exact sameButCase_of_typeName_eq hdrop hstyle (Sdl.isNamePart_of_mem hname)
      (Sdl.isNamePart_of_mem hother) h
  · intro owner field other howner hfield hother h
    exact sameButCase_of_argsName_eq hdrop hstyle howner (Sdl.isNamePart_of_mem hfield)
      (Sdl.isNamePart_of_mem hother) h
  · intro hstyle hnone hsuffix name hname
    have hidentifier := fun {name : String} (h : Sdl.isName name.toList = true) =>
      isIdentifier_typeName hdrop hstyle hnone hsuffix h
    refine ⟨hidentifier hname, enumName_eq hnone name ▸ hidentifier hname, fun field hfield => ?_⟩
    rw [argsName_eq]
    exact hidentifier (isName_argsBase hname
      (Sdl.isNamePart_of_mem (isName_converted hdrop hstyle hfield)))

/-- Digits, leading and doubled underscores, and two names with one identifier. -/
theorem names_keep_letters_pascal : ∃ s, Settings.ofOptions Options.defaults = .ok s ∧
    s.naming.dropUnderscores = false ∧ s.naming.typeNames ∈ inPlace ∧
    s.naming.typeNames ≠ .kebab ∧ s.typesPrefix = "" ∧ s.typesSuffix = "" ∧
    s.typeName "_HTTPServer__2ndTRY" = "_HttpServer__2ndTry" ∧
    SameButCase (s.converted "_HTTPServer__2ndTRY").toList "_HTTPServer__2ndTRY".toList ∧
    s.typeName "user_ID" = s.typeName "User_id" ∧ SameButCase "user_ID".toList "User_id".toList ∧
    s.argsName "Query" "getID" = s.argsName "Query" "GetId" ∧
    SameButCase "getID".toList "GetId".toList ∧
    IsIdentifier (s.typeName "_") ∧ IsIdentifier (s.enumName "_") ∧
    IsIdentifier (s.argsName "_" "_2") := by
  have hruns : ((Settings.ofOptions Options.defaults).toOption.any fun s =>
      s.naming == { typeNames := .pascal, enumValues := .pascal, dropUnderscores := false } &&
        s.typesPrefix == "" && s.typesSuffix == "" &&
        s.typeName "_HTTPServer__2ndTRY" == "_HttpServer__2ndTry" &&
        s.typeName "user_ID" == s.typeName "User_id" &&
        s.argsName "Query" "getID" == s.argsName "Query" "GetId") = true := by decide +kernel
  obtain ⟨s, hs, h⟩ := (Option.any_eq_true ..).mp hruns
  simp only [Bool.and_eq_true, beq_iff_eq] at h
  obtain ⟨⟨⟨⟨⟨hnaming, hnone⟩, hsuffix⟩, hserver⟩, huser⟩, hget⟩ := h
  have hdrop : s.naming.dropUnderscores = false := by rw [hnaming]
  have hplace : s.naming.typeNames ∈ inPlace := by
    rw [hnaming]
    decide
  have hstyle : s.naming.typeNames ≠ .kebab := by
    rw [hnaming]
    decide
  obtain ⟨hletters, hidentifiers⟩ := names_keep_letters hdrop
  obtain ⟨hconverted, htypes, hfields⟩ := hletters hplace
  obtain ⟨htype, henum, hargs⟩ := hidentifiers hstyle hnone hsuffix "_" (by decide)
  exact ⟨s, Outcome.toOption_eq_some.mp hs, hdrop, hplace, hstyle, hnone, hsuffix, hserver,
    (hconverted _ (by decide)).2, huser, htypes _ _ (by decide) (by decide) huser, hget,
    hfields "Query" _ _ (by decide) (by decide) (by decide) hget, htype, henum,
    hargs "_2" (by decide)⟩

end Settings

end SchemaTypings
