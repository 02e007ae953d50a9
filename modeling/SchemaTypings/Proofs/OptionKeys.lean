import SchemaTypings.Config.Store
import SchemaTypings.Proofs.Spelling
import SchemaTypings.Proofs.TableOrder

/-!
# Option keys that are normal

The key under which an option is looked up is small words with underscores between them. Such a text
is cut into the same words again, so a normal key is its own normal key, and a table with normal keys
stays as it is.
-/

namespace SchemaTypings

namespace Name

/-! ## Cutting at a separator -/

theorem ne_nil_of_mem_runs {p : Char → Bool} {cs run : List Char} (h : run ∈ runs p cs) :
    run ≠ [] := by
  induction cs generalizing run with
  | nil => cases h
  | cons c rest ih =>
    unfold runs at h
    split at h
    · split at h
      · next hruns =>
        split at h
        · rcases List.mem_cons.mp h with rfl | h
          · exact List.cons_ne_nil _ _
          · exact ih (hruns ▸ List.mem_cons_of_mem _ h)
        · rcases List.mem_cons.mp h with rfl | h
          · exact List.cons_ne_nil _ _
          · exact ih (hruns ▸ h)
      · rcases List.mem_cons.mp h with rfl | h
        · exact List.cons_ne_nil _ _
        · exact ih h
    · exact ih h

theorem runs_skip {p : Char → Bool} {c : Char} (hc : p c = false) (rest : List Char) :
    runs p (c :: rest) = runs p rest := by
  conv => lhs; unfold runs
  exact if_neg (by simp [hc])

theorem runs_end {p : Char → Bool} {c d : Char} (hc : p c = true) (hd : p d = false)
    (rest : List Char) : runs p (c :: d :: rest) = [c] :: runs p rest := by
  rw [← runs_skip hd rest]
  conv => lhs; unfold runs
  rw [if_pos hc]
  cases runs p (d :: rest) <;> simp [hd]

theorem runs_extend {p : Char → Bool} {c d : Char} (hc : p c = true) (hd : p d = true)
    {rest run : List Char} {others : List (List Char)} (h : runs p (d :: rest) = run :: others) :
    runs p (c :: d :: rest) = (c :: run) :: others := by
  conv => lhs; unfold runs
  rw [if_pos hc]
  simp [h, hd]

theorem runs_of_all {p : Char → Bool} {word : List Char} (hne : word ≠ [])
    (hword : ∀ c ∈ word, p c = true) : runs p word = [word] := by
  induction word with
  | nil => exact absurd rfl hne
  | cons c rest ih =>
    rw [List.forall_mem_cons] at hword
    cases rest with
    | nil => simp [runs, hword.1]
    | cons d rest =>
      exact runs_extend hword.1 (hword.2 d List.mem_cons_self) (ih (List.cons_ne_nil _ _) hword.2)

theorem runs_append {p : Char → Bool} {sep : Char} (hsep : p sep = false) {word : List Char}
    (hne : word ≠ []) (hword : ∀ c ∈ word, p c = true) (rest : List Char) :
    runs p (word ++ sep :: rest) = word :: runs p rest := by
  induction word with
  | nil => exact absurd rfl hne
  | cons c word ih =>
    rw [List.forall_mem_cons] at hword
    cases word with
    | nil => exact runs_end hword.1 hsep rest
    | cons d word =>
      exact runs_extend hword.1 (hword.2 d List.mem_cons_self) (ih (List.cons_ne_nil _ _) hword.2)

theorem runs_join {p : Char → Bool} {sep : Char} (hsep : p sep = false) {ws : List (List Char)}
    (hne : ∀ w ∈ ws, w ≠ []) (hws : ∀ w ∈ ws, ∀ c ∈ w, p c = true) :
    runs p (Text.join [sep] ws) = ws := by
  unfold Text.join
  induction ws with
  | nil => rfl
  | cons w rest ih =>
    rw [List.forall_mem_cons] at hne hws
    cases rest with
    | nil => rw [List.intercalate_singleton, runs_of_all hne.1 hws.1]
    | cons v rest =>
      rw [List.intercalate_cons_cons, List.append_assoc, List.singleton_append,
        runs_append hsep hne.1 hws.1, ih hne.2 hws.2]

/-! ## Texts without capitals -/

theorem spaceBeforeCapitals_eq_self {cs : List Char} (h : ∀ c ∈ cs, isUpper c = false) :
    spaceBeforeCapitals cs = cs := by
  induction cs with
  | nil => rfl
  | cons a rest ih =>
    rw [List.forall_mem_cons] at h
    cases rest with
    | nil => rfl
    | cons b rest =>
      have hb : isUpper b = false := h.2 b List.mem_cons_self
      rw [spaceBeforeCapitals, hb, Bool.and_false, if_neg (by decide), ih h.2]

theorem spaceBeforeLastCapital_eq_self {cs : List Char} (h : ∀ c ∈ cs, isUpper c = false) :
    spaceBeforeLastCapital cs = cs := by
  induction cs with
  | nil => rfl
  | cons a rest ih =>
    rw [List.forall_mem_cons] at h
    match rest with
    | [] => rfl
    | [b] => rfl
    | b :: c :: rest =>
      rw [spaceBeforeLastCapital, h.1, Bool.false_and, Bool.false_and, if_neg (by decide), ih h.2]

theorem isUpper_asciiLower {c : Char} (h : isWordChar c = true) :
    isUpper (Text.asciiLower c) = false :=
  ascii_cases (P := fun c => isUpper (Text.asciiLower c) = false) (by decide)
    (toNat_of_isWordChar h)

theorem asciiLower_asciiLower {c : Char} (h : isWordChar c = true) :
    Text.asciiLower (Text.asciiLower c) = Text.asciiLower c :=
  ascii_cases (P := fun c => Text.asciiLower (Text.asciiLower c) = Text.asciiLower c) (by decide)
    (toNat_of_isWordChar h)

end Name

/-! ## Normal keys -/

namespace NameStyle

/-- Words in small letters are found again behind any separator. -/
theorem words_lowerWords {sep : Char} (hsep : Name.isWordChar sep = false) (name : List Char) :
    Name.words (lowerWords sep (Name.words name)) =
      (Name.words name).map (·.map Text.asciiLower) := by
  have hwords : ∀ w ∈ (Name.words name).map (·.map Text.asciiLower), w ≠ [] ∧
      ∀ c ∈ w, Name.isWordChar c = true ∧ Name.isUpper c = false := by
    intro w hw
    obtain ⟨v, hv, rfl⟩ := List.mem_map.mp hw
    refine ⟨fun h => Name.ne_nil_of_mem_runs hv (List.map_eq_nil_iff.mp h), fun c hc => ?_⟩
    obtain ⟨d, hd, rfl⟩ := List.mem_map.mp hc
    have hd := Name.mem_words hv d hd
    exact ⟨Name.isWordChar_asciiLower hd, Name.isUpper_asciiLower hd⟩
  -- Without capitals neither of the two passes puts in a space.
  have hsmall : ∀ c ∈ lowerWords sep (Name.words name), Name.isUpper c = false := by
    intro c hc
    rcases Text.mem_join hc with hc | ⟨w, hw, hc⟩
    · rw [List.mem_singleton.mp hc]
      rw [Name.isWordChar, Bool.or_eq_false_iff, Bool.or_eq_false_iff] at hsep
      exact hsep.1.2
    · exact ((hwords w hw).2 c hc).2
  rw [Name.words, Name.spaceBeforeCapitals_eq_self hsmall,
    Name.spaceBeforeLastCapital_eq_self hsmall]
  exact Name.runs_join hsep (fun w hw => (hwords w hw).1)
    fun w hw c hc => ((hwords w hw).2 c hc).1

theorem map_asciiLower_words (name : List Char) :
    ((Name.words name).map (·.map Text.asciiLower)).map (·.map Text.asciiLower) =
      (Name.words name).map (·.map Text.asciiLower) := by
  rw [List.map_map]
  refine List.map_congr_left fun w hw => ?_
  rw [Function.comp_apply, List.map_map]
  exact List.map_congr_left fun c hc => Name.asciiLower_asciiLower (Name.mem_words hw c hc)

theorem convert_snake_of_words {name name' : List Char}
    (h : (Name.words name').map (·.map Text.asciiLower) =
      (Name.words name).map (·.map Text.asciiLower)) :
    snake.convert name' = snake.convert name := congrArg (Text.join ['_']) h

theorem convert_snake_lowerWords {sep : Char} (hsep : Name.isWordChar sep = false)
    (name : List Char) :
    snake.convert (lowerWords sep (Name.words name)) = snake.convert name :=
  convert_snake_of_words (by rw [words_lowerWords hsep, map_asciiLower_words])

theorem convert_snake_snake (name : List Char) :
    snake.convert (snake.convert name) = snake.convert name :=
  convert_snake_lowerWords (by decide) name

end NameStyle

theorem optionKey_optionKey (key : String) : optionKey (optionKey key) = optionKey key := by
  rw [optionKey, optionKey, NameStyle.apply, NameStyle.apply, String.toList_ofList,
    NameStyle.convert_snake_snake]

theorem OptionName.optionKey_key (o : OptionName) : optionKey o.key = o.key := by
  have hnormal : ∀ o ∈ all, optionKey o.key = o.key := by decide +kernel
  exact hnormal o o.mem_all

/-! ## Tables with normal keys -/

/-- A table in which each key stands once, in its normal spelling. -/
structure NormalKeys (t : Table String Value) : Prop where
  distinct : (Table.keys t).Nodup
  normal : ∀ key ∈ Table.keys t, optionKey key = key

theorem NormalKeys.normalizeKeys {t : Table String Value} (h : NormalKeys t) :
    normalizeKeys t = t := by
  have hkeys : t.map (fun p => (optionKey p.1, p.2)) = t := by
    refine (List.map_congr_left fun p hp => ?_).trans (List.map_id t)
    rw [h.normal p.1 (List.mem_map_of_mem hp)]
    rfl
  rw [SchemaTypings.normalizeKeys, hkeys, Table.ofPairs_of_nodup h.distinct]

theorem normalKeys_normalizeKeys (pairs : List (String × Value)) :
    NormalKeys (normalizeKeys pairs) := by
  refine ⟨Table.nodup_keys_ofPairs _, fun key hkey => ?_⟩
  rcases (Table.mem_keys_putAll ..).mp hkey with hkey | hkey
  · cases hkey
  · obtain ⟨_, hp, rfl⟩ := List.mem_map.mp hkey
    obtain ⟨p, _, rfl⟩ := List.mem_map.mp hp
    exact optionKey_optionKey p.1

theorem NormalKeys.putAll {t u : Table String Value} (ht : NormalKeys t) (hu : NormalKeys u) :
    NormalKeys (Table.putAll t u) := by
  refine ⟨Table.nodup_keys_putAll t u ht.distinct, fun key hkey => ?_⟩
  rcases (Table.mem_keys_putAll ..).mp hkey with hkey | hkey
  · exact ht.normal key hkey
  · exact hu.normal key hkey

theorem Options.ofTable_putAll {defaults pairs : Table String Value}
    (hneutral : Options.ofTable defaults = Options.defaults)
    (hpairs : (Table.keys pairs).Nodup) :
    Options.ofTable (Table.putAll defaults pairs) = Options.ofTable pairs := by
  funext o
  have ho := congrFun hneutral o
  have hlast : Table.get? pairs.reverse o.key = Table.get? pairs o.key := by
    rw [← Table.get?_ofPairs, Table.ofPairs_of_nodup hpairs]
  rw [Options.ofTable, Options.ofTable, Table.get?_putAll, hlast]
  cases Table.get? pairs o.key with
  | some v => rfl
  | none => exact ho

end SchemaTypings
