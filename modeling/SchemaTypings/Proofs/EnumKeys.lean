import Mathlib.Data.List.Induction
import Mathlib.Data.List.Nodup
import Mathlib.Data.List.Perm.Subperm
import SchemaTypings.Code.Enums
import SchemaTypings.Code.Names
import SchemaTypings.Proofs.Outcome
import SchemaTypings.Proofs.Spelling

/-!
# The keys of an enum

Each value of an enum gets a key of its own: the one that it would like to have if that property
name is free, else its name in quotes, with a number if that is taken too.
-/

namespace SchemaTypings.Code

/-! ## Legal keys -/

/-- A letter, an underscore or a dollar sign, then the same and digits. -/
def IsIdentifier (key : String) : Prop :=
  ∃ c rest, key.toList = c :: rest ∧ Name.isIdentifierStart c = true ∧
    ∀ d ∈ rest, Name.isIdentifierPart d = true

/-- A key is legal for a property name: it is the name, or it is the name in quotes. -/
inductive KeyOf : String → String → Prop
  | bare {property} (h : IsIdentifier property) : KeyOf property property
  | quoted {property} (h : '\'' ∉ property.toList) : KeyOf ("'" ++ property ++ "'") property

def SameProperty (key key' : String) : Prop := ∃ property, KeyOf key property ∧ KeyOf key' property

theorem quote_notMem {property : String} (h : IsIdentifier property) : '\'' ∉ property.toList := by
  obtain ⟨c, rest, hlist, hc, hrest⟩ := h
  rw [hlist, List.mem_cons]
  rintro (rfl | hmem)
  · exact absurd hc (by decide)
  · exact absurd (hrest _ hmem) (by decide)

theorem dropWhile_quote {cs : List Char} (h : '\'' ∉ cs) :
    cs.dropWhile (· == '\'') = cs := by
  cases cs with
  | nil => rfl
  | cons c rest =>
    rw [List.dropWhile_cons_of_neg]
    intro heq
    rw [beq_iff_eq] at heq
    exact h (heq ▸ List.mem_cons_self)

theorem propertyName_eq_self {property : String} (h : '\'' ∉ property.toList) :
    propertyName property = property := by
  unfold propertyName Text.trimOf
  rw [dropWhile_quote h, dropWhile_quote (by simpa using h), List.reverse_reverse,
    String.ofList_toList]

theorem propertyName_quoted {property : String} (h : '\'' ∉ property.toList) :
    propertyName ("'" ++ property ++ "'") = property := by
  have hlist : ("'" ++ property ++ "'").toList = '\'' :: (property.toList ++ ['\'']) := by
    simp
  unfold propertyName Text.trimOf
  rw [hlist, List.dropWhile_cons_of_pos rfl, List.dropWhile_append, dropWhile_quote h]
  cases hproperty : property.toList with
  | nil =>
    rw [String.toList_eq_nil_iff.mp hproperty]
    rfl
  | cons c rest =>
    rw [hproperty, ← List.mem_reverse] at h
    rw [if_neg (by simp), List.reverse_append, List.reverse_singleton, List.singleton_append,
      List.dropWhile_cons_of_pos rfl, dropWhile_quote h, List.reverse_reverse, ← hproperty,
      String.ofList_toList]

theorem KeyOf.propertyName {key property : String} (h : KeyOf key property) :
    propertyName key = property := by
  cases h with
  | bare h => exact propertyName_eq_self (quote_notMem h)
  | quoted h => exact propertyName_quoted h

/-! ## The key that a value would like to have -/

theorem keyOf_asKey {name : String} (h : ∀ c ∈ name.toList, isSpelled c = true) :
    KeyOf (asKey name) name := by
  unfold asKey
  split
  · next hid =>
    refine .bare ?_
    unfold Name.isIdentifier at hid
    cases hlist : name.toList with
    | nil =>
      rw [hlist] at hid
      cases hid
    | cons c rest =>
      rw [hlist] at hid h
      have hline : rest.getLast? ≠ some '\n' := by
        intro hlast
        exact absurd (h _ (List.mem_cons_of_mem _ (List.mem_of_getLast? hlast))) (by decide)
      simp only [if_neg hline, Bool.and_eq_true, List.all_eq_true] at hid
      exact ⟨c, rest, hlist, hid.1, hid.2⟩
  · exact .quoted fun hmem => absurd (h _ hmem) (by decide)

theorem keyOf_converted (s : Settings) {name : String} (h : Sdl.isName name.toList = true) :
    KeyOf (s.enumKey name) (s.convertName name s.enumKeyForm) := by
  refine keyOf_asKey ?_
  have hconverted : (s.convertName name s.enumKeyForm).toList =
      s.naming.enumValues.convert name.toList := by
    rw [← NameStyle.convertParts_dropUnderscores]
    simp [Settings.convertName, Settings.decorate, Settings.effective, Settings.enumKeyForm,
      NameStyle.applyParts]
  rw [hconverted]
  exact NameStyle.isSpelled_convert fun c hc =>
    isSpelled_of_isNamePart (Sdl.isNamePart_of_mem h c hc)

theorem keyOf_enumKey (s : Settings) {name : String} (h : Sdl.isName name.toList = true) :
    ∃ property, KeyOf (s.enumKey name) property := ⟨_, keyOf_converted s h⟩

/-! ## Numbered names -/

/-- A name, then the same name with the numbers from two onwards. -/
def candidate (name : String) : Nat → String
  | 0 => name
  | n + 1 => name ++ "_" ++ toString (n + 2)

theorem number_injective : Function.Injective (toString : Nat → String) := by
  intro m n h
  have hdigits : Nat.toDigits 10 m = Nat.toDigits 10 n := by
    simpa using congrArg String.toList h
  have hread := congrArg (Nat.ofDigitChars 10 · 0) hdigits
  simpa only [Nat.ofDigitChars_toDigits (show 1 < 10 by decide) (Nat.le_refl 10)] using hread

theorem candidate_injective (name : String) : Function.Injective (candidate name) := by
  have hlonger : ∀ n, candidate name (n + 1) ≠ name := by
    intro n heq
    have hlength := congrArg String.length heq
    have hdash : "_".length = 1 := rfl
    rw [candidate, String.length_append, String.length_append] at hlength
    omega
  intro i j heq
  cases i with
  | zero =>
    cases j with
    | zero => rfl
    | succ j => exact absurd heq.symm (hlonger j)
  | succ i =>
    cases j with
    | zero => exact absurd heq (hlonger i)
    | succ j =>
      have hnumber : toString (i + 2) = toString (j + 2) := (String.append_right_inj _).mp heq
      have hsame := number_injective hnumber
      omega

theorem keyCandidates_eq (name : String) (k : Nat) :
    keyCandidates name k = (List.range (k + 1)).map (candidate name) := by
  unfold keyCandidates
  rw [List.range_succ_eq_map, List.map_cons, List.map_map]
  rfl

theorem exists_free (name : String) (used : List String) :
    ∃ n ≤ used.length, candidate name n ∉ used := by
  by_contra hall
  push Not at hall
  -- All candidates would be in use, but there is one more of them than there are names in use.
  have hsub : (List.range (used.length + 1)).map (candidate name) ⊆ used := by
    intro c hc
    obtain ⟨n, hn, rfl⟩ := List.mem_map.mp hc
    rw [List.mem_range] at hn
    exact hall n (by omega)
  have hnodup : ((List.range (used.length + 1)).map (candidate name)).Nodup :=
    List.nodup_range.map (candidate_injective name)
  have hlength := (hnodup.subperm hsub).length_le
  rw [List.length_map, List.length_range] at hlength
  omega

theorem uniqueKey_spec (name : String) (used : List String) :
    ∃ n ≤ used.length, uniqueKey name used = "'" ++ candidate name n ++ "'" ∧
      candidate name n ∉ used ∧ ∀ i < n, candidate name i ∈ used := by
  unfold uniqueKey
  rw [keyCandidates_eq, List.find?_map]
  obtain ⟨k, hk, hfree⟩ := exists_free name used
  have hsome : ((List.range (used.length + 1)).find?
      ((fun c => !used.contains c) ∘ candidate name)).isSome := by
    rw [List.find?_isSome]
    exact ⟨k, List.mem_range.mpr (by omega), by simpa using hfree⟩
  obtain ⟨n, hn⟩ := Option.isSome_iff_exists.mp hsome
  rw [hn]
  rw [List.find?_range_eq_some] at hn
  obtain ⟨hfree, hn, hfirst⟩ := hn
  rw [List.mem_range] at hn
  exact ⟨n, by omega, rfl, by simpa using hfree, by simpa using hfirst⟩

theorem quote_notMem_candidate {name : String} (h : Sdl.isName name.toList = true) (n : Nat) :
    '\'' ∉ (candidate name n).toList := by
  have hname : '\'' ∉ name.toList := fun hmem =>
    absurd (Sdl.isNamePart_of_mem h _ hmem) (by decide)
  cases n with
  | zero => exact hname
  | succ n =>
    have hdigits : '\'' ∉ (toString (n + 2)).toList := by
      intro hmem
      change '\'' ∈ (Nat.repr (n + 2)).toList at hmem
      rw [Nat.toList_repr] at hmem
      exact absurd (Nat.isDigit_of_mem_toDigits (by omega) (by omega) hmem) (by decide)
    rw [candidate, String.toList_append, String.toList_append, List.mem_append, List.mem_append]
    rintro ((hmem | hmem) | hmem)
    · exact hname hmem
    · exact absurd hmem (by decide)
    · exact hdigits hmem

/-! ## One key after the other -/

/-- The key of a value once some property names are used, and the property that it stands for. -/
inductive Keyed (s : Settings) (used : List String) (name : String) : String → String → Prop
  | wanted {property} (hkey : KeyOf (s.enumKey name) property) (hfree : property ∉ used) :
      Keyed s used name (s.enumKey name) property
  | numbered {property n} (hkey : KeyOf (s.enumKey name) property) (htaken : property ∈ used)
      (hn : n ≤ used.length) (hquote : '\'' ∉ (candidate name n).toList)
      (hfree : candidate name n ∉ used) (hfirst : ∀ i < n, candidate name i ∈ used) :
      Keyed s used name ("'" ++ candidate name n ++ "'") (candidate name n)

theorem Keyed.keyOf {s : Settings} {used : List String} {name key property : String}
    (h : Keyed s used name key property) : KeyOf key property := by
  cases h with
  | wanted hkey _ => exact hkey
  | numbered _ _ _ hquote _ _ => exact .quoted hquote

theorem Keyed.notMem {s : Settings} {used : List String} {name key property : String}
    (h : Keyed s used name key property) : property ∉ used := by
  cases h with
  | wanted _ hfree => exact hfree
  | numbered _ _ _ _ hfree _ => exact hfree

theorem keyed_memberKey (s : Settings) (used : List String) {name : String}
    (h : Sdl.isName name.toList = true) :
    ∃ property, Keyed s used name (memberKey s used name) property := by
  obtain ⟨property, hkey⟩ := keyOf_enumKey s h
  simp only [memberKey, hkey.propertyName]
  split
  · next htaken =>
    obtain ⟨n, hn, hunique, hfree, hfirst⟩ := uniqueKey_spec name used
    rw [hunique]
    exact ⟨_, .numbered hkey (by simpa using htaken) hn (quote_notMem_candidate h n) hfree hfirst⟩
  · next hfree => exact ⟨property, .wanted hkey (by simpa using hfree)⟩

theorem memberKeys_length (s : Settings) (used names : List String) :
    (memberKeys s used names).length = names.length := by
  induction names generalizing used with
  | nil => rfl
  | cons name rest ih => rw [memberKeys, List.length_cons, List.length_cons, ih]

theorem memberKeys_append (s : Settings) (used names names' : List String) :
    memberKeys s used (names ++ names') = memberKeys s used names ++
      memberKeys s (((memberKeys s used names).map propertyName).reverse ++ used) names' := by
  induction names generalizing used with
  | nil => rfl
  | cons name rest ih =>
    rw [List.cons_append, memberKeys, memberKeys, ih]
    simp

/-! ## The members -/

theorem pairwise_of_split {α : Type} {R : α → α → Prop} {l : List α}
    (h : ∀ before a after, l = before ++ a :: after → ∀ b ∈ before, R b a) : l.Pairwise R := by
  induction l using List.reverseRecOn with
  | nil => exact .nil
  | append_singleton l a ih =>
    rw [List.pairwise_append]
    refine ⟨?_, List.pairwise_singleton .., ?_⟩
    · refine ih fun before b after hl => h before b (after ++ [a]) ?_
      rw [hl]
      simp
    · intro b hb c hc
      rw [List.mem_singleton.mp hc]
      exact h l a [] rfl b hb

theorem enumMembers_zip (s : Settings) (enum : String) (values : List EnumValue) :
    (s.enumMembers enum values).map (fun m => (m.name, m.key)) =
      (values.map EnumValue.name).zip (memberKeys s [] (values.map EnumValue.name)) := by
  generalize hkeys : memberKeys s [] (values.map EnumValue.name) = keys
  have hzip : (values.map EnumValue.name).zip keys =
      ((values.zip keys).zipIdx.map Prod.fst).map fun p => (p.1.name, p.2) := by
    rw [List.zipIdx_map_fst, List.zip_map_left]
    rfl
  rw [hzip, Settings.enumMembers, hkeys, List.map_map, List.map_map]
  rfl

theorem enumMembers_names (s : Settings) (enum : String) (values : List EnumValue) :
    (s.enumMembers enum values).map EnumMember.name = values.map EnumValue.name := by
  have h := congrArg (List.map Prod.fst) (enumMembers_zip s enum values)
  rw [List.map_map, List.map_fst_zip (Nat.le_of_eq (memberKeys_length ..).symm)] at h
  exact h

theorem enumMembers_keys (s : Settings) (enum : String) (values : List EnumValue) :
    (s.enumMembers enum values).map EnumMember.key =
      memberKeys s [] (values.map EnumValue.name) := by
  have h := congrArg (List.map Prod.snd) (enumMembers_zip s enum values)
  rw [List.map_map, List.map_snd_zip (Nat.le_of_eq (memberKeys_length ..))] at h
  exact h

def usedBy (before : List EnumMember) : List String :=
  ((before.map EnumMember.key).map propertyName).reverse

theorem keyed_member {s : Settings} {enum : String} {values : List EnumValue}
    (hnames : ∀ v ∈ values, Sdl.isName v.name.toList = true) {before after : List EnumMember}
    {m : EnumMember} (h : s.enumMembers enum values = before ++ m :: after) :
    Keyed s (usedBy before) m.name m.key (propertyName m.key) := by
  have hn := enumMembers_names s enum values
  have hk := enumMembers_keys s enum values
  -- There are as many keys as names, so both lists split at this member.
  rw [← hn, h, List.map_append, List.map_append, memberKeys_append] at hk
  obtain ⟨hbefore, hafter⟩ := List.append_inj hk (by simp [memberKeys_length])
  rw [List.map_cons, List.map_cons, memberKeys, List.append_nil, ← hbefore,
    List.cons.injEq] at hafter
  have hname : Sdl.isName m.name.toList = true := by
    have hmem : m.name ∈ values.map EnumValue.name := by
      rw [← hn, h]
      simp
    obtain ⟨v, hv, hname⟩ := List.mem_map.mp hmem
    exact hname ▸ hnames v hv
  have hkey : m.key = memberKey s (usedBy before) m.name := hafter.1
  obtain ⟨property, hkeyed⟩ := keyed_memberKey s (usedBy before) hname
  rw [hkey, hkeyed.keyOf.propertyName]
  exact hkeyed

theorem keyOf_member {s : Settings} {enum : String} {values : List EnumValue}
    (hnames : ∀ v ∈ values, Sdl.isName v.name.toList = true) {m : EnumMember}
    (hm : m ∈ s.enumMembers enum values) : KeyOf m.key (propertyName m.key) := by
  obtain ⟨before, after, h⟩ := List.append_of_mem hm
  exact (keyed_member hnames h).keyOf

theorem mem_usedBy_iff {s : Settings} {enum : String} {values : List EnumValue}
    (hnames : ∀ v ∈ values, Sdl.isName v.name.toList = true) {before after : List EnumMember}
    (h : s.enumMembers enum values = before ++ after) {property : String} :
    property ∈ usedBy before ↔ ∃ b ∈ before, KeyOf b.key property := by
  rw [usedBy, List.mem_reverse, List.mem_map]
  simp only [List.mem_map, exists_exists_and_eq_and]
  constructor
  · rintro ⟨b, hb, rfl⟩
    exact ⟨b, hb, keyOf_member hnames (h ▸ List.mem_append_left _ hb)⟩
  · rintro ⟨b, hb, hkey⟩
    exact ⟨b, hb, hkey.propertyName⟩

structure KeysOfEnum (s : Settings) (values : List EnumValue) (ms : List EnumMember) : Prop where
  names : ms.map EnumMember.name = values.map EnumValue.name
  legal : ∀ m ∈ ms, ∃ property, KeyOf m.key property
  distinct : ms.Pairwise fun a b => ¬SameProperty a.key b.key
  /-- A value gets the key that it would like to have if no earlier one has the property name. -/
  wanted : ∀ before m after, ms = before ++ m :: after →
    (∀ b ∈ before, ¬SameProperty (s.enumKey m.name) b.key) → m.key = s.enumKey m.name
  /-- Else it gets the first of its numbered names that no earlier one has. -/
  numbered : ∀ before m after, ms = before ++ m :: after →
    (∃ b ∈ before, SameProperty (s.enumKey m.name) b.key) →
    ∃ n ≤ before.length, m.key = "'" ++ candidate m.name n ++ "'" ∧
      ∀ i < n, ∃ b ∈ before, KeyOf b.key (candidate m.name i)

/-- **The keys of an enum are legal, distinct and the wanted ones where these are free.** -/
theorem enumMembers_distinct (s : Settings) (enum : String) (values : List EnumValue)
    (hnames : ∀ v ∈ values, Sdl.isName v.name.toList = true) :
    KeysOfEnum s values (s.enumMembers enum values) := by
  refine ⟨enumMembers_names s enum values, fun m hm => ⟨_, keyOf_member hnames hm⟩, ?_, ?_, ?_⟩
  · apply pairwise_of_split
    rintro before m after h b hb ⟨property, hbkey, hmkey⟩
    -- When the later key is chosen the earlier one is in use.
    have hfresh := (keyed_member hnames h).notMem
    rw [hmkey.propertyName, mem_usedBy_iff hnames h] at hfresh
    exact hfresh ⟨b, hb, hbkey⟩
  · intro before m after h hfree
    have hkeyed := keyed_member hnames h
    generalize m.key = key, propertyName m.key = property at hkeyed
    cases hkeyed with
    | wanted => rfl
    | numbered hkey htaken _ _ _ _ =>
      obtain ⟨b, hb, hbkey⟩ := (mem_usedBy_iff hnames h).mp htaken
      exact absurd ⟨_, hkey, hbkey⟩ (hfree b hb)
  · rintro before m after h ⟨b, hb, property, hkey, hbkey⟩
    have hkeyed := keyed_member hnames h
    have hlength : (usedBy before).length = before.length := by simp [usedBy]
    generalize m.key = key, propertyName m.key = property at hkeyed
    cases hkeyed with
    | wanted hkey' hfree =>
      rw [mem_usedBy_iff hnames h, ← hkey'.propertyName, hkey.propertyName] at hfree
      exact absurd ⟨b, hb, hbkey⟩ hfree
    | numbered _ _ hn _ _ hfirst =>
      refine ⟨_, hlength ▸ hn, rfl, ?_⟩
      intro i hi
      exact (mem_usedBy_iff hnames h).mp (hfirst i hi)

/-- Four names of which two pairs would like to have the same key. -/
def clashing : List EnumValue :=
  ["FOO", "_FOO", "FOO_BAR", "FooBar"].map fun name =>
    { name, description := .null, deprecation := .null, stored := .plain (.text name) }

theorem enumMembers_distinct_clashing : ∃ s, Settings.ofOptions Options.defaults = .ok s ∧
    (∀ v ∈ clashing, Sdl.isName v.name.toList = true) ∧
    (s.enumMembers "Clash" clashing).map EnumMember.key =
      ["Foo", "'_FOO'", "FooBar", "'FooBar_2'"] ∧
    KeysOfEnum s clashing (s.enumMembers "Clash" clashing) := by
  have hruns : ((Settings.ofOptions Options.defaults).toOption.any fun s =>
      (s.enumMembers "Clash" clashing).map EnumMember.key ==
        ["Foo", "'_FOO'", "FooBar", "'FooBar_2'"]) = true := by decide +kernel
  obtain ⟨s, hs, hkeys⟩ := (Option.any_eq_true ..).mp hruns
  have hnames : ∀ v ∈ clashing, Sdl.isName v.name.toList = true := by decide
  exact ⟨s, Outcome.toOption_eq_some.mp hs, hnames, by simpa using hkeys,
    enumMembers_distinct s "Clash" clashing hnames⟩

end SchemaTypings.Code
