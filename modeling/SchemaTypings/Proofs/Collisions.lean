import Mathlib.Data.List.Duplicate
import SchemaTypings.Generator.Basic
import SchemaTypings.Proofs.EnumKeys

/-!
# Which collisions of enum keys are announced

A value of an enum is displaced if another one has the property name that it would like to have. The
warnings name each key that several values would like to have, so they tell of every value that was
displaced by one that wanted the same key. They do not tell of a value whose key was taken by the
name that an earlier displaced value fell back to.
-/

namespace SchemaTypings.Code

/-! ## The listed keys -/

/-- The keys that were seen and those that are listed, after one more value. -/
def note (s : Settings) (noted : List String × List String) (name : String) :
    List String × List String :=
  let key := s.enumKey name
  (key :: noted.1,
    if noted.1.contains key && !noted.2.contains key then noted.2 ++ [key] else noted.2)

theorem foldl_note (s : Settings) (names : List String) :
    names.foldl (note s) ([], []) = ((names.map s.enumKey).reverse, keyCollisions s names) := by
  have hlisted : keyCollisions s names = (names.foldl (note s) ([], [])).2 := rfl
  have hseen : (names.foldl (note s) ([], [])).1 = (names.map s.enumKey).reverse := by
    induction names using List.reverseRecOn with
    | nil => rfl
    | append_singleton names name ih =>
      rw [List.foldl_append, List.foldl_cons, List.foldl_nil, note, ih rfl]
      simp
  rw [← hseen, hlisted]

theorem keyCollisions_snoc (s : Settings) (names : List String) (name : String) :
    keyCollisions s (names ++ [name]) =
      if s.enumKey name ∈ names.map s.enumKey ∧ s.enumKey name ∉ keyCollisions s names then
        keyCollisions s names ++ [s.enumKey name]
      else keyCollisions s names := by
  have hfold := congrArg Prod.snd (foldl_note s (names ++ [name]))
  rw [List.foldl_append, List.foldl_cons, List.foldl_nil, foldl_note] at hfold
  refine hfold.symm.trans ?_
  simp [note]

theorem nodup_keyCollisions (s : Settings) (names : List String) :
    (keyCollisions s names).Nodup := by
  induction names using List.reverseRecOn with
  | nil => exact List.nodup_nil
  | append_singleton names name ih =>
    rw [keyCollisions_snoc]
    split
    · next h =>
      rw [List.nodup_append]
      refine ⟨ih, List.nodup_singleton _, ?_⟩
      rintro a ha b hb rfl
      exact h.2 (List.mem_singleton.mp hb ▸ ha)
    · exact ih

theorem mem_keyCollisions_iff {s : Settings} {names : List String} {key : String} :
    key ∈ keyCollisions s names ↔ (names.map s.enumKey).Duplicate key := by
  rw [List.duplicate_iff_two_le_count]
  induction names using List.reverseRecOn with
  | nil => simp [keyCollisions]
  | append_singleton names name ih =>
    rw [keyCollisions_snoc, List.map_append, List.map_singleton, List.count_append,
      List.count_singleton]
    by_cases hkey : s.enumKey name = key
    · subst hkey
      rw [beq_self_eq_true, if_pos rfl, Nat.succ_le_succ_iff, List.one_le_count_iff]
      split
      · next h => simp [h.1]
      · next h =>
        refine ⟨fun hlisted => ?_, fun hwanted => ?_⟩
        · exact List.one_le_count_iff.mp (Nat.le_of_succ_le (ih.mp hlisted))
        · exact Decidable.not_not.mp fun hnew => h ⟨hwanted, hnew⟩
    · have hother : (s.enumKey name == key) = false := by simpa using hkey
      rw [hother, if_neg Bool.false_ne_true, Nat.add_zero, ← ih]
      split
      · simp [Ne.symm hkey]
      · rfl

theorem duplicate_map_iff {f : EnumMember → String} {ms : List EnumMember} {key : String} :
    (ms.map f).Duplicate key ↔
      ∃ before m after, ms = before ++ m :: after ∧ f m = key ∧ ∃ b ∈ before, f b = key := by
  constructor
  · intro h
    induction ms with
    | nil => exact absurd h (List.not_duplicate_nil key)
    | cons a ms ih =>
      rcases List.duplicate_cons_iff.mp h with ⟨ha, hkey⟩ | h
      · obtain ⟨m, hm, hmkey⟩ := List.mem_map.mp hkey
        obtain ⟨before, after, rfl⟩ := List.append_of_mem hm
        exact ⟨a :: before, m, after, rfl, hmkey, a, List.mem_cons_self, ha⟩
      · obtain ⟨before, m, after, rfl, hmkey, b, hb, hbkey⟩ := ih h
        exact ⟨a :: before, m, after, rfl, hmkey, b, List.mem_cons_of_mem _ hb, hbkey⟩
  · rintro ⟨before, m, after, rfl, rfl, b, hb, hkey⟩
    have hmem : 1 ≤ (before.map f).count (f m) :=
      List.one_le_count_iff.mpr (hkey ▸ List.mem_map_of_mem hb)
    rw [List.duplicate_iff_two_le_count, List.map_append, List.map_cons, List.count_append,
      List.count_cons_self]
    omega

theorem mem_keyCollisions_iff_members {s : Settings} {enum : String} {values : List EnumValue}
    {key : String} :
    key ∈ keyCollisions s (values.map EnumValue.name) ↔
      ∃ before m after, s.enumMembers enum values = before ++ m :: after ∧
        s.enumKey m.name = key ∧ ∃ b ∈ before, s.enumKey b.name = key := by
  rw [mem_keyCollisions_iff, ← enumMembers_names s enum, List.map_map, duplicate_map_iff]
  rfl

/-! ## Displaced values -/

/-- A value does not have the key that it would like to have. -/
def EnumMember.Displaced (s : Settings) (m : EnumMember) : Prop := m.key ≠ s.enumKey m.name

theorem enumKey_eq_asKey {s : Settings} {name property : String}
    (h : Sdl.isName name.toList = true) (hkey : KeyOf (s.enumKey name) property) :
    s.enumKey name = asKey property := by
  rw [← hkey.propertyName, (keyOf_converted s h).propertyName]
  rfl

section

variable {s : Settings} {enum : String} {values : List EnumValue}
  (hnames : ∀ v ∈ values, Sdl.isName v.name.toList = true)

include hnames

theorem isName_member {m : EnumMember} (hm : m ∈ s.enumMembers enum values) :
    Sdl.isName m.name.toList = true := by
  have hmem := List.mem_map_of_mem (f := EnumMember.name) hm
  rw [enumMembers_names] at hmem
  obtain ⟨v, hv, hname⟩ := List.mem_map.mp hmem
  exact hname ▸ hnames v hv

theorem displaced_iff {before after : List EnumMember} {m : EnumMember}
    (h : s.enumMembers enum values = before ++ m :: after) :
    m.Displaced s ↔ ∃ b ∈ before, SameProperty b.key (s.enumKey m.name) := by
  have hkeyed := keyed_member hnames h
  have hused (property : String) :
      property ∈ usedBy before ↔ ∃ b ∈ before, KeyOf b.key property := mem_usedBy_iff hnames h
  constructor
  · intro hdisplaced
    unfold EnumMember.Displaced at hdisplaced
    generalize m.key = key, propertyName m.key = property at hkeyed hdisplaced
    cases hkeyed with
    | wanted => exact absurd rfl hdisplaced
    | numbered hkey htaken =>
      obtain ⟨b, hb, hbkey⟩ := (hused _).mp htaken
      exact ⟨b, hb, _, hbkey, hkey⟩
  · rintro ⟨b, hb, property, hbkey, hkey⟩ hwanted
    -- The key that it has is free, but the one that it would like is in use.
    have hfresh := hkeyed.notMem
    rw [hwanted, hkey.propertyName, hused] at hfresh
    exact hfresh ⟨b, hb, hbkey⟩

theorem displaced_of_same_enumKey {before after : List EnumMember} {b m : EnumMember}
    (h : s.enumMembers enum values = before ++ m :: after) (hb : b ∈ before)
    (hsame : s.enumKey b.name = s.enumKey m.name) : b.Displaced s ∨ m.Displaced s := by
  by_cases hkept : b.key = s.enumKey b.name
  -- The earlier one has the key, so it is in use when the later one comes.
  · have hbmem : b ∈ s.enumMembers enum values := h ▸ List.mem_append_left _ hb
    have hbkey := keyOf_member hnames hbmem
    refine Or.inr ((displaced_iff hnames h).mpr ⟨b, hb, _, hbkey, ?_⟩)
    rw [← hsame, ← hkept]
    exact hbkey
  · exact Or.inl hkept

theorem displaced_by {before after : List EnumMember} {m : EnumMember}
    (h : s.enumMembers enum values = before ++ m :: after) (hm : m.Displaced s) :
    (∃ b ∈ before, s.enumKey b.name = s.enumKey m.name) ∨
      ∃ b ∈ before, b.Displaced s ∧ SameProperty b.key (s.enumKey m.name) := by
  obtain ⟨b, hb, property, hbkey, hmkey⟩ := (displaced_iff hnames h).mp hm
  -- The one that is in the way has the key that it would like, or it fell back to this name.
  by_cases hkept : b.key = s.enumKey b.name
  · have hbmem : b ∈ s.enumMembers enum values := h ▸ List.mem_append_left _ hb
    have hmmem : m ∈ s.enumMembers enum values := h ▸ List.mem_append_right _ List.mem_cons_self
    have hbname := isName_member hnames hbmem
    have hmname := isName_member hnames hmmem
    refine Or.inl ⟨b, hb, ?_⟩
    rw [enumKey_eq_asKey hbname (hkept ▸ hbkey), enumKey_eq_asKey hmname hmkey]
  · exact Or.inr ⟨b, hb, hkept, property, hbkey, hmkey⟩

theorem exists_displaced {key : String}
    (h : key ∈ keyCollisions s (values.map EnumValue.name)) :
    ∃ m ∈ s.enumMembers enum values, m.Displaced s ∧ s.enumKey m.name = key := by
  obtain ⟨before, m, after, hms, hmkey, b, hb, hbkey⟩ := mem_keyCollisions_iff_members.mp h
  have hbmem : b ∈ s.enumMembers enum values := hms ▸ List.mem_append_left _ hb
  have hmmem : m ∈ s.enumMembers enum values :=
    hms ▸ List.mem_append_right _ List.mem_cons_self
  rcases displaced_of_same_enumKey hnames hms hb (hbkey.trans hmkey.symm) with hb | hm
  · exact ⟨b, hbmem, hb, hbkey⟩
  · exact ⟨m, hmmem, hm, hmkey⟩

end

/-- **The warnings name each key that several values would like to have, once, and no other.** Each
is the key of a displaced value. They name the keys of all displaced values exactly if none of these
is alone in wanting its key, and one that is alone was displaced by the name that an earlier
displaced value fell back to. -/
theorem keyCollisions_exact (s : Settings) (enum : String) (values : List EnumValue)
    (hnames : ∀ v ∈ values, Sdl.isName v.name.toList = true) :
    let names := values.map EnumValue.name
    let ms := s.enumMembers enum values
    (keyCollisions s names).Nodup ∧
    (∀ key, key ∈ keyCollisions s names ↔ (names.map s.enumKey).Duplicate key) ∧
    (∀ key ∈ keyCollisions s names, ∃ m ∈ ms, m.Displaced s ∧ s.enumKey m.name = key) ∧
    (∀ before m after, ms = before ++ m :: after → m.Displaced s →
      s.enumKey m.name ∉ keyCollisions s names →
        ∃ b ∈ before, b.Displaced s ∧ SameProperty b.key (s.enumKey m.name)) ∧
    ((∀ key, key ∈ keyCollisions s names ↔ ∃ m ∈ ms, m.Displaced s ∧ s.enumKey m.name = key) ↔
      ∀ m ∈ ms, m.Displaced s → (names.map s.enumKey).Duplicate (s.enumKey m.name)) ∧
    ∀ t : NamedType, t.body = .enum (.ok values) → s.externalEnum? t.name = .ok none →
      collisionWarnings s t = .ok ((keyCollisions s names).map (collisionWarning t.name)) := by
  intro names ms
  refine ⟨nodup_keyCollisions s names, fun key => mem_keyCollisions_iff,
    fun key => exists_displaced hnames, ?_, ⟨fun h m hm hdisplaced => ?_, fun h key => ?_⟩, ?_⟩
  · intro before m after hms hm hunlisted
    refine (displaced_by hnames hms hm).resolve_left ?_
    rintro ⟨b, hb, hsame⟩
    exact hunlisted (mem_keyCollisions_iff_members.mpr ⟨before, m, after, hms, rfl, b, hb, hsame⟩)
  · exact mem_keyCollisions_iff.mp ((h _).mpr ⟨m, hm, hdisplaced, rfl⟩)
  · refine ⟨exists_displaced hnames, ?_⟩
    rintro ⟨m, hm, hdisplaced, rfl⟩
    exact mem_keyCollisions_iff.mpr (h m hm hdisplaced)
  · intro t hbody hlocal
    unfold collisionWarnings
    rw [hbody, hlocal]
    rfl

/-- The second value falls back to the name that the third one would like as its key. -/
def shifting : List EnumValue :=
  ["ab", "AB", "A_B"].map fun name =>
    { name, description := .null, deprecation := .null, stored := .plain (.text name) }

theorem keyCollisions_exact_shifting : ∃ s, Settings.ofOptions Options.defaults = .ok s ∧
    (∀ v ∈ shifting, Sdl.isName v.name.toList = true) ∧
    (s.enumMembers "E" shifting).map EnumMember.key = ["Ab", "'AB'", "'A_B'"] ∧
    shifting.map (s.enumKey ∘ EnumValue.name) = ["Ab", "Ab", "AB"] ∧
    "AB" ∉ keyCollisions s (shifting.map EnumValue.name) ∧
    ¬∀ key, key ∈ keyCollisions s (shifting.map EnumValue.name) ↔
      ∃ m ∈ s.enumMembers "E" shifting, m.Displaced s ∧ s.enumKey m.name = key := by
  have hruns : ((Settings.ofOptions Options.defaults).toOption.any fun s =>
      (s.enumMembers "E" shifting).map EnumMember.key == ["Ab", "'AB'", "'A_B'"] &&
        shifting.map (s.enumKey ∘ EnumValue.name) == ["Ab", "Ab", "AB"] &&
        (s.enumMembers "E" shifting).any fun m =>
          m.key != s.enumKey m.name && s.enumKey m.name == "AB") = true := by
    decide +kernel
  obtain ⟨s, hs, h⟩ := (Option.any_eq_true ..).mp hruns
  simp only [Bool.and_eq_true, beq_iff_eq, List.any_eq_true, bne_iff_ne] at h
  obtain ⟨⟨hkeys, hwanted⟩, m, hm, hdisplaced, hkey⟩ := h
  have hnames : ∀ v ∈ shifting, Sdl.isName v.name.toList = true := by decide
  obtain ⟨-, hlisted, -⟩ := keyCollisions_exact s "E" shifting hnames
  have hunlisted : "AB" ∉ keyCollisions s (shifting.map EnumValue.name) := by
    rw [hlisted, List.map_map, hwanted]
    decide
  refine ⟨s, Outcome.toOption_eq_some.mp hs, hnames, hkeys, hwanted, hunlisted, ?_⟩
  intro hdisplaced_iff
  exact hunlisted ((hdisplaced_iff "AB").mpr ⟨m, hm, hdisplaced, hkey⟩)

end SchemaTypings.Code
