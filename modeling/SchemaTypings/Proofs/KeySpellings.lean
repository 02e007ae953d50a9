import SchemaTypings.Proofs.Recasing

/-!
# Spellings of an option key

An option key may be spelled in snake, kebab or camel case. Separators give the words back as they
were. Camel case has none, but in it each word after the first opens with a capital, or with an
underscore and a digit. So the words are found again unless one of them is such a capital alone.
-/

namespace SchemaTypings

namespace Name

/-! ## One word after the other -/

/-- A character that never begins a word behind another one. -/
def isSmall (c : Char) : Bool := isLower c || isDigit c

/-- No word goes on here: the text ends, or a capital follows or a character that is in no word. -/
def StartsAnew : List Char → Prop
  | [] => True
  | c :: _ => isUpper c = true ∨ isWordChar c = false

theorem isWordChar_of_isSmall {c : Char} (h : isSmall c = true) : isWordChar c = true := by
  rw [isSmall, Bool.or_eq_true] at h
  rw [isWordChar, Bool.or_eq_true, Bool.or_eq_true]
  exact h.imp_left Or.inl

theorem isSmall_asciiLower {c : Char} (h : isWordChar c = true) :
    isSmall (Text.asciiLower c) = true :=
  ascii_cases (P := fun c => isWordChar c = true → isSmall (Text.asciiLower c) = true) (by decide)
    (toNat_of_isWordChar h) h

theorem words_of_head (a : Char) (rest : List Char) :
    ∃ after, spaced (a :: rest) = a :: after ∧ words (a :: rest) = runs isWordChar (a :: after) := by
  obtain ⟨after, hafter⟩ := List.head?_eq_some_iff.mp (head?_spaced (a :: rest))
  exact ⟨after, hafter, congrArg _ hafter⟩

theorem words_skip {a : Char} (ha : isWordChar a = false) (rest : List Char) :
    words (a :: rest) = words rest := by
  cases rest with
  | nil => exact runs_skip ha []
  | cons b rest =>
    have hcut : ¬cutsBefore a b rest.head? = true := fun h =>
      Bool.false_ne_true (ha.symm.trans (isWordChar_of_cutsBefore h).1)
    rw [words_cons_cons, if_neg hcut, runs_skip ha]
    rfl

theorem words_end {a : Char} (ha : isSmall a = true) {rest : List Char} (h : StartsAnew rest) :
    words (a :: rest) = [a] :: words rest := by
  have hword := isWordChar_of_isSmall ha
  cases rest with
  | nil => simp [words, spaceBeforeCapitals, spaceBeforeLastCapital, runs, hword]
  | cons b rest =>
    rw [words_cons_cons]
    rcases h with hb | hb
    -- Before a capital a blank is put; any other character that starts anew is in no word.
    · have hcut : cutsBefore a b rest.head? = true := by
        rw [isSmall] at ha
        rw [cutsBefore, hb, ha]
        rfl
      rw [if_pos hcut]
      simp [runs, hword]
    · have hcut : ¬cutsBefore a b rest.head? = true := fun h =>
        Bool.false_ne_true (hb.symm.trans (isWordChar_of_cutsBefore h).2)
      obtain ⟨after, hspaced, hwords⟩ := words_of_head b rest
      rw [if_neg hcut, hwords, hspaced, runs_end hword hb, runs_skip hb]

theorem words_extend {a b : Char} (ha : isWordChar a = true) (hb : isSmall b = true)
    {rest word : List Char} {others : List (List Char)}
    (h : words (b :: rest) = word :: others) : words (a :: b :: rest) = (a :: word) :: others := by
  -- A small letter or a digit is never cut off from what stands before it.
  have hcut : ¬cutsBefore a b rest.head? = true := by
    rw [cutsBefore, not_isUpper_of_small hb, Bool.false_and]
    exact Bool.false_ne_true
  obtain ⟨after, hspaced, hwords⟩ := words_of_head b rest
  rw [words_cons_cons, if_neg hcut, hspaced]
  exact runs_extend ha (isWordChar_of_isSmall hb) (hwords.symm.trans h)

theorem words_append {a : Char} {tail rest : List Char} (ha : isWordChar a = true)
    (htail : ∀ c ∈ tail, isSmall c = true) (hend : tail = [] → isSmall a = true)
    (hrest : StartsAnew rest) : words (a :: (tail ++ rest)) = (a :: tail) :: words rest := by
  induction tail generalizing a with
  | nil => exact words_end (hend rfl) hrest
  | cons b tail ih =>
    rw [List.forall_mem_cons] at htail
    exact words_extend ha htail.1
      (ih (isWordChar_of_isSmall htail.1) htail.2 fun _ => htail.1)

/-! ## Lone letters -/

def isLoneLetter : List Char → Bool
  | [c] => isLetter c
  | _ => false

/-- No word of a name after the first is a single letter. -/
def NoLoneLetter (name : List Char) : Prop := ∀ word ∈ (words name).tail, isLoneLetter word = false

instance (name : List Char) : Decidable (NoLoneLetter name) :=
  inferInstanceAs (Decidable (∀ word ∈ (words name).tail, isLoneLetter word = false))

theorem asciiUpper_asciiLower {c : Char} (h : isWordChar c = true) :
    Text.asciiUpper (Text.asciiLower c) = Text.asciiUpper c :=
  ascii_cases (P := fun c => Text.asciiUpper (Text.asciiLower c) = Text.asciiUpper c) (by decide)
    (toNat_of_isWordChar h)

theorem isDigit_asciiLower (c : Char) : isDigit (Text.asciiLower c) = isDigit c :=
  of_asciiLower (P := fun c => isDigit (Text.asciiLower c) = isDigit c) (by decide)
    (fun c h => by rw [h]) c

theorem capital_cases {c : Char} (h : isWordChar c = true) :
    (isDigit c = true ∧ Text.asciiUpper c = c) ∨
      (isDigit c = false ∧ isLetter c = true ∧ isUpper (Text.asciiUpper c) = true) :=
  ascii_cases (P := fun c => isWordChar c = true → (isDigit c = true ∧ Text.asciiUpper c = c) ∨
    (isDigit c = false ∧ isLetter c = true ∧ isUpper (Text.asciiUpper c) = true)) (by decide)
    (toNat_of_isWordChar h) h

end Name

namespace NameStyle

open Name

/-! ## Words in camel case -/

/-- A word as a name has it. -/
structure IsWord (word : List Char) : Prop where
  ne_nil : word ≠ []
  chars : ∀ c ∈ word, isWordChar c = true

theorem isWord_of_mem_words {name word : List Char} (h : word ∈ words name) : IsWord word :=
  ⟨ne_nil_of_mem_runs h, mem_words h⟩

theorem isSmall_map_asciiLower {word : List Char} (h : ∀ c ∈ word, isWordChar c = true) :
    ∀ c ∈ word.map Text.asciiLower, isSmall c = true := by
  intro c hc
  obtain ⟨d, hd, rfl⟩ := List.mem_map.mp hc
  exact isSmall_asciiLower (h d hd)

theorem startsAnew_laterWords {later : List (List Char)} (h : ∀ w ∈ later, IsWord w) :
    StartsAnew (later.flatMap laterWord) := by
  cases later with
  | nil => trivial
  | cons word later =>
    rw [List.forall_mem_cons] at h
    obtain ⟨c, tail, rfl⟩ := List.exists_cons_of_ne_nil h.1.ne_nil
    rw [List.flatMap_cons, laterWord]
    rcases capital_cases (h.1.chars c List.mem_cons_self) with ⟨hdigit, -⟩ | ⟨hdigit, -, hupper⟩
    · rw [if_pos hdigit]
      exact Or.inr (by decide)
    · rw [if_neg (by simp [hdigit])]
      exact Or.inl hupper

theorem words_laterWord {word rest : List Char} (h : IsWord word)
    (hlone : isLoneLetter word = false) (hrest : StartsAnew rest) :
    words (laterWord word ++ rest) = capitalized word :: words rest := by
  obtain ⟨c, tail, rfl⟩ := List.exists_cons_of_ne_nil h.ne_nil
  have hc := h.chars c List.mem_cons_self
  have htail := isSmall_map_asciiLower fun d hd => h.chars d (List.mem_cons_of_mem c hd)
  rw [laterWord, capitalized]
  rcases capital_cases hc with ⟨hdigit, hsame⟩ | ⟨hdigit, hletter, -⟩
  · rw [if_pos hdigit, hsame, List.cons_append, words_skip (by decide)]
    exact words_append hc htail (fun _ => by rw [isSmall, hdigit, Bool.or_true]) hrest
  · rw [if_neg (by simp [hdigit])]
    refine words_append (isWordChar_asciiUpper hc) htail (fun hnil => ?_) hrest
    rw [List.map_eq_nil_iff.mp hnil, isLoneLetter, hletter] at hlone
    cases hlone

theorem words_laterWords {later : List (List Char)} (h : ∀ w ∈ later, IsWord w)
    (hlone : ∀ w ∈ later, isLoneLetter w = false) :
    words (later.flatMap laterWord) = later.map capitalized := by
  induction later with
  | nil => rfl
  | cons word later ih =>
    rw [List.forall_mem_cons] at h hlone
    rw [List.flatMap_cons, words_laterWord h.1 hlone.1 (startsAnew_laterWords h.2),
      ih h.2 hlone.2, List.map_cons]

theorem words_camelWords {first : List Char} {later : List (List Char)}
    (h : ∀ w ∈ first :: later, IsWord w) (hlone : ∀ w ∈ later, isLoneLetter w = false) :
    words (camelWords (first :: later)) =
      first.map Text.asciiLower :: later.map capitalized := by
  rw [List.forall_mem_cons] at h
  obtain ⟨c, tail, rfl⟩ := List.exists_cons_of_ne_nil h.1.ne_nil
  have hsmall := isSmall_map_asciiLower h.1.chars
  rw [List.map_cons, List.forall_mem_cons] at hsmall
  rw [camelWords, List.map_cons, List.cons_append,
    words_append (isWordChar_of_isSmall hsmall.1) hsmall.2 (fun _ => hsmall.1)
      (startsAnew_laterWords h.2), words_laterWords h.2 hlone]

theorem map_asciiLower_capitalized {word : List Char} (h : IsWord word) :
    (capitalized word).map Text.asciiLower = word.map Text.asciiLower := by
  obtain ⟨c, tail, rfl⟩ := List.exists_cons_of_ne_nil h.ne_nil
  rw [capitalized, List.map_cons, List.map_cons, List.map_map,
    asciiLower_asciiUpper (h.chars c List.mem_cons_self)]
  exact congrArg _ (List.map_congr_left fun d hd =>
    asciiLower_asciiLower (h.chars d (List.mem_cons_of_mem c hd)))

theorem convert_snake_camel {name : List Char} (h : NoLoneLetter name) :
    snake.convert (camel.convert name) = snake.convert name := by
  refine convert_snake_of_words ?_
  have hwords : ∀ w ∈ words name, IsWord w := fun w hw => isWord_of_mem_words hw
  rw [NoLoneLetter] at h
  rw [convert]
  generalize words name = ws at h hwords ⊢
  cases ws with
  | nil => rfl
  | cons first later =>
    rw [words_camelWords hwords h, List.map_cons, List.map_cons, List.map_map, List.map_map]
    rw [List.forall_mem_cons] at hwords
    refine congrArg₂ _ ?_ (List.map_congr_left fun w hw => ?_)
    · exact List.map_congr_left fun c hc => asciiLower_asciiLower (hwords.1.chars c hc)
    · exact map_asciiLower_capitalized (hwords.2 w hw)

/-! ## A spelling of a spelling -/

theorem capitalized_map_asciiLower {word : List Char} (h : ∀ c ∈ word, isWordChar c = true) :
    capitalized (word.map Text.asciiLower) = capitalized word := by
  cases word with
  | nil => rfl
  | cons c tail =>
    rw [List.forall_mem_cons] at h
    rw [List.map_cons, capitalized, capitalized, asciiUpper_asciiLower h.1, List.map_map]
    exact congrArg _ (List.map_congr_left fun d hd => asciiLower_asciiLower (h.2 d hd))

theorem laterWord_map_asciiLower {word : List Char} (h : ∀ c ∈ word, isWordChar c = true) :
    laterWord (word.map Text.asciiLower) = laterWord word := by
  cases word with
  | nil => rfl
  | cons c tail =>
    have hcapital := capitalized_map_asciiLower h
    rw [List.map_cons] at hcapital ⊢
    rw [laterWord, laterWord, isDigit_asciiLower, hcapital]

theorem camelWords_map_asciiLower {ws : List (List Char)} (h : ∀ w ∈ ws, IsWord w) :
    camelWords (ws.map (·.map Text.asciiLower)) = camelWords ws := by
  cases ws with
  | nil => rfl
  | cons first later =>
    rw [List.forall_mem_cons] at h
    rw [List.map_cons, camelWords, camelWords, List.map_map, List.flatMap_map]
    refine congrArg₂ _ ?_ (List.flatMap_congr fun w hw => ?_)
    · exact List.map_congr_left fun c hc => asciiLower_asciiLower (h.1.chars c hc)
    · exact laterWord_map_asciiLower (h.2 w hw).chars

/-- A key is spelled in a style: in camel case only if no capital in it would stand alone. -/
def Spells (style : NameStyle) (key : String) : Prop :=
  style = snake ∨ style = kebab ∨ style = camel ∧ NoLoneLetter key.toList

theorem convert_convert_snake {style : NameStyle} {key : String} (h : style.Spells key) :
    style.convert (snake.convert key.toList) = style.convert key.toList := by
  have hwords : words (snake.convert key.toList) =
      (words key.toList).map (·.map Text.asciiLower) := words_lowerWords (by decide) _
  rcases h with rfl | rfl | ⟨rfl, -⟩
  · exact convert_snake_snake _
  · exact (congrArg (lowerWords '-') hwords).trans
      (congrArg (Text.join ['-']) (map_asciiLower_words _))
  · exact (congrArg camelWords hwords).trans
      (camelWords_map_asciiLower fun w hw => isWord_of_mem_words hw)

theorem convert_snake_convert {style : NameStyle} {key : String} (h : style.Spells key) :
    snake.convert (style.convert key.toList) = snake.convert key.toList := by
  rcases h with rfl | rfl | ⟨rfl, hlone⟩
  · exact convert_snake_snake _
  · exact convert_snake_lowerWords (by decide) _
  · exact convert_snake_camel hlone

theorem snake_apply_of_spells {style : NameStyle} {key : String} (h : style.Spells key) :
    snake.apply (style.apply key) = snake.apply key := by
  rw [apply, apply, apply, String.toList_ofList, convert_snake_convert h]

theorem apply_eq_of_snake {style : NameStyle} {key key' : String} (h : style.Spells key)
    (h' : style.Spells key') (hsame : snake.apply key = snake.apply key') :
    style.apply key = style.apply key' := by
  rw [apply, apply, String.ofList_inj] at hsame
  rw [apply, apply, ← convert_convert_snake h, ← convert_convert_snake h', hsame]

end NameStyle

/-! ## Options under keys in other spellings -/

open NameStyle (snake kebab camel Spells)

/-- A mapping with its keys in a style. Keys that are then the same are one key. -/
def respell (style : NameStyle) (pairs : List (String × Value)) : Table String Value :=
  Table.ofPairs (Table.rename style.apply pairs)

theorem normalizeKeys_eq (pairs : List (String × Value)) :
    normalizeKeys pairs = Table.ofPairs (Table.rename optionKey pairs) := rfl

theorem normalizeKeys_respell {style : NameStyle} {pairs : List (String × Value)}
    (h : ∀ p ∈ pairs, style.Spells p.1) : normalizeKeys (respell style pairs) =
      normalizeKeys pairs := by
  have hdistinct : ∀ j ∈ Table.keys (Table.rename style.apply pairs),
      ∀ k ∈ Table.keys (Table.rename style.apply pairs), optionKey j = optionKey k → j = k := by
    intro j hj k hk hsame
    obtain ⟨p, hp, rfl⟩ := Table.mem_keys_rename.mp hj
    obtain ⟨q, hq, rfl⟩ := Table.mem_keys_rename.mp hk
    refine NameStyle.apply_eq_of_snake (h p hp) (h q hq) ?_
    rwa [← NameStyle.snake_apply_of_spells (h p hp), ← NameStyle.snake_apply_of_spells (h q hq)]
  have hkeys : Table.rename optionKey (Table.rename style.apply pairs) =
      Table.rename optionKey pairs := by
    rw [Table.rename, Table.rename, List.map_map]
    refine List.map_congr_left fun p hp => ?_
    exact congrArg (fun key => (key, p.2)) (NameStyle.snake_apply_of_spells (h p hp))
  rw [normalizeKeys_eq, respell, ← Table.ofPairs_rename hdistinct, hkeys,
    Table.ofPairs_of_nodup (Table.nodup_keys_ofPairs _), ← normalizeKeys_eq]

/-- **The spelling of an option key says no more than its words.** From its spelling in snake case
or kebab case, and in camel case if no word after the first is a single letter, comes the same
normal key. So normal keys are not changed again, and a mapping means the same options with all its
keys in one of these spellings, or with each key in one of its own. -/
theorem options_keep_spelled :
    (∀ key : String, snake.apply (snake.apply key) = snake.apply key ∧
      snake.apply (kebab.apply key) = snake.apply key ∧
      (Name.NoLoneLetter key.toList → snake.apply (camel.apply key) = snake.apply key)) ∧
    (∀ pairs : List (String × Value),
      normalizeKeys (normalizeKeys pairs) = normalizeKeys pairs) ∧
    (∀ (style : NameStyle) (pairs : List (String × Value)), (∀ p ∈ pairs, style.Spells p.1) →
      normalizeKeys (respell style pairs) = normalizeKeys pairs) ∧
    ∀ entries : List (NameStyle × String × Value), (∀ e ∈ entries, e.1.Spells e.2.1) →
      normalizeKeys (entries.map fun e => (e.1.apply e.2.1, e.2.2)) =
        normalizeKeys (entries.map Prod.snd) := by
  refine ⟨fun key => ⟨?_, ?_, fun hlone => ?_⟩, fun pairs => ?_,
    fun style pairs h => normalizeKeys_respell h, fun entries h => ?_⟩
  · exact NameStyle.snake_apply_of_spells (Or.inl rfl)
  · exact NameStyle.snake_apply_of_spells (Or.inr (Or.inl rfl))
  · exact NameStyle.snake_apply_of_spells (Or.inr (Or.inr ⟨rfl, hlone⟩))
  · exact (normalKeys_normalizeKeys pairs).normalizeKeys
  · rw [normalizeKeys, normalizeKeys, List.map_map, List.map_map]
    refine congrArg _ (List.map_congr_left fun e he => ?_)
    exact congrArg (fun key => (key, e.2.2)) (NameStyle.snake_apply_of_spells (h e he))

/-- A row of capitals, and a word that begins with a digit. -/
theorem options_keep_spelled_camel :
    let key := "HTTPRow 2nd-types"
    let pairs : List (String × Value) :=
      [(key, .int 1), ("enumValues", .int 2), ("http-row_2ndTypes", .int 3)]
    Name.NoLoneLetter key.toList ∧ camel.apply key = "httpRow_2ndTypes" ∧
    snake.apply (camel.apply key) = snake.apply key ∧
    (∀ p ∈ pairs, camel.Spells p.1) ∧ normalizeKeys (respell camel pairs) = normalizeKeys pairs := by
  intro key pairs
  have hlone : Name.NoLoneLetter key.toList := by decide +kernel
  have hspells : ∀ p ∈ pairs, camel.Spells p.1 := by
    have hall : ∀ p ∈ pairs, Name.NoLoneLetter p.1.toList := by decide +kernel
    exact fun p hp => Or.inr (Or.inr ⟨rfl, hall p hp⟩)
  obtain ⟨hkeys, -, hpairs, -⟩ := options_keep_spelled
  exact ⟨hlone, by decide +kernel, (hkeys key).2.2 hlone, hspells, hpairs camel pairs hspells⟩

end SchemaTypings
