import SchemaTypings.Proofs.Wrappers

/-!
# What the wrappers of a type say

Each level of a type has its wrapper, and no wrapper opens like another one. So the wrappers can be
read back from the text of a type, and two types with one text have the same levels.
-/

namespace SchemaTypings

namespace TypeRef

/-- Which levels of a type may be missing, the outermost first. -/
def levels : TypeRef → List Bool
  | named nullable _ => [nullable]
  | list nullable item => nullable :: item.levels

/-- How many lists there are around the innermost type. -/
def depth : TypeRef → Nat
  | named .. => 0
  | list _ item => item.depth + 1

theorem length_levels (t : TypeRef) : t.levels.length = t.depth + 1 := by
  induction t with
  | named => rfl
  | list nullable item ih => rw [levels, List.length_cons, ih, depth]

end TypeRef

namespace Code

/-! ## Reading wrappers back -/

/-- What stands before a wrapped text. -/
def Wrapper.opening (w : Wrapper) : List Char := w.name.toList ++ ['<']

theorem toList_wrapText_cons (w : Wrapper) (ws : List Wrapper) (text : String) :
    (wrapText (w :: ws) text).toList = w.opening ++ ((wrapText ws text).toList ++ ['>']) := by
  have hopen : "<".toList = ['<'] := rfl
  have hclose : ">".toList = ['>'] := rfl
  rw [wrapText, List.foldr_cons, String.toList_append, String.toList_append, String.toList_append,
    hopen, hclose, Wrapper.opening, wrapText]
  simp only [List.append_assoc]

theorem opening_prefix {w v : Wrapper} (h : w.opening <+: v.opening) : w = v := by
  cases w <;> cases v <;> first | rfl | exact absurd h (by decide)

theorem opening_injective {w v : Wrapper} {cs ds : List Char}
    (h : w.opening ++ cs = v.opening ++ ds) : w = v ∧ cs = ds := by
  have hw : w.opening <+: v.opening ++ ds := h ▸ List.prefix_append w.opening cs
  have hv : v.opening <+: v.opening ++ ds := List.prefix_append v.opening ds
  rcases List.prefix_or_prefix_of_prefix hw hv with hwv | hvw
  · obtain rfl := opening_prefix hwv
    exact ⟨rfl, List.append_cancel_left h⟩
  · obtain rfl := opening_prefix hvw
    exact ⟨rfl, List.append_cancel_left h⟩

/-- A text that no wrapper opens, but perhaps the one of whole fields. -/
def Unwrapped (text : String) : Prop :=
  ∀ w : Wrapper, w ≠ .entireField → ¬ w.opening <+: text.toList

instance (text : String) : Decidable (Unwrapped text) :=
  decidable_of_iff
    (∀ w ∈ [Wrapper.maybe, .inputMaybe, .array, .readonlyArray, .field],
      ¬ w.opening <+: text.toList)
    ⟨fun h w hw => h w (by cases w <;> simp_all), fun h w hw => h w (by rintro rfl; simp at hw)⟩

theorem not_unwrapped_cons {w : Wrapper} (hw : w ≠ .entireField) (ws : List Wrapper)
    (text : String) : ¬ Unwrapped (wrapText (w :: ws) text) := by
  intro h
  apply h w hw
  rw [toList_wrapText_cons]
  exact List.prefix_append _ _

/-- The wrappers around an unwrapped text can be read back. -/
theorem wrapText_injective {ws vs : List Wrapper} {a b : String}
    (hws : .entireField ∉ ws) (hvs : .entireField ∉ vs) (ha : Unwrapped a) (hb : Unwrapped b)
    (h : wrapText ws a = wrapText vs b) : ws = vs ∧ a = b := by
  induction ws generalizing vs with
  | nil =>
    cases vs with
    | nil => exact ⟨rfl, h⟩
    | cons v vs =>
      have ha : Unwrapped (wrapText (v :: vs) b) := h ▸ ha
      exact absurd ha (not_unwrapped_cons (List.ne_of_not_mem_cons hvs).symm vs b)
  | cons w ws ih =>
    cases vs with
    | nil =>
      have hb : Unwrapped (wrapText (w :: ws) a) := h.symm ▸ hb
      exact absurd hb (not_unwrapped_cons (List.ne_of_not_mem_cons hws).symm ws a)
    | cons v vs =>
      have hlist := congrArg String.toList h
      rw [toList_wrapText_cons, toList_wrapText_cons] at hlist
      -- What opens a wrapper ends at its first bracket, so it is told apart from all others.
      obtain ⟨rfl, htail⟩ := opening_injective hlist
      have hinner : wrapText ws a = wrapText vs b :=
        String.toList_inj.mp (List.append_cancel_right htail)
      obtain ⟨rfl, hab⟩ := ih (List.not_mem_of_not_mem_cons hws)
        (List.not_mem_of_not_mem_cons hvs) hinner
      exact ⟨rfl, hab⟩

/-! ## Wrappers of levels -/

theorem count_missing {missing many : Wrapper} (hne : missing ≠ many) {inner : List Wrapper}
    (hinner : missing ∉ inner) (t : TypeRef) :
    (levelWrappers missing many inner t).count missing = t.levels.count true := by
  induction t with
  | named nullable name =>
    cases nullable <;> simp [levelWrappers, TypeRef.levels, List.count_eq_zero_of_not_mem hinner]
  | list nullable item ih =>
    cases nullable <;> simp [levelWrappers, TypeRef.levels, ih, hne.symm]

theorem count_many {missing many : Wrapper} (hne : missing ≠ many) {inner : List Wrapper}
    (hinner : many ∉ inner) (t : TypeRef) :
    (levelWrappers missing many inner t).count many = t.depth := by
  induction t with
  | named nullable name =>
    cases nullable <;>
      simp [levelWrappers, TypeRef.depth, List.count_eq_zero_of_not_mem hinner, hne]
  | list nullable item ih =>
    cases nullable <;> simp [levelWrappers, TypeRef.depth, ih, hne]

theorem levelWrappers_append (missing many : Wrapper) (inner : List Wrapper) (t : TypeRef) :
    levelWrappers missing many inner t = levelWrappers missing many [] t ++ inner := by
  induction t with
  | named nullable name => simp [levelWrappers]
  | list nullable item ih => simp [levelWrappers, ih]

theorem levels_of_levelWrappers {missing many : Wrapper} (hne : missing ≠ many) {t u : TypeRef}
    (h : levelWrappers missing many [] t = levelWrappers missing many [] u) :
    t.levels = u.levels := by
  induction t generalizing u with
  | named nullable name =>
    cases u with
    | named nullable' name' =>
      cases nullable <;> cases nullable' <;> simp_all [levelWrappers, TypeRef.levels]
    -- A list always has the wrapper for arrays, a name never.
    | list nullable' item =>
      cases nullable <;> cases nullable' <;> simp_all [levelWrappers]
  | list nullable item ih =>
    cases u with
    | named nullable' name =>
      cases nullable <;> cases nullable' <;> simp_all [levelWrappers]
    | list nullable' item' =>
      have hitem : item.levels = item'.levels := by
        apply ih
        cases nullable <;> cases nullable' <;> simp_all [levelWrappers]
      cases nullable <;> cases nullable' <;> simp_all [levelWrappers, TypeRef.levels]

theorem levelWrappers_of_levels (missing many : Wrapper) {t u : TypeRef}
    (h : t.levels = u.levels) :
    levelWrappers missing many [] t = levelWrappers missing many [] u := by
  induction t generalizing u with
  | named nullable name =>
    cases u with
    | named nullable' name' =>
      obtain rfl : nullable = nullable' := by simpa [TypeRef.levels] using h
      rfl
    | list nullable' item =>
      have hlength := congrArg List.length h
      simp [TypeRef.levels, TypeRef.length_levels] at hlength
  | list nullable item ih =>
    cases u with
    | named nullable' name =>
      have hlength := congrArg List.length h
      simp [TypeRef.levels, TypeRef.length_levels] at hlength
    | list nullable' item' =>
      obtain ⟨rfl, hitem⟩ := List.cons.inj h
      rw [levelWrappers, levelWrappers, ih hitem]

/-! ## Positions -/

/-- Where a type stands. -/
inductive Position where
  | output
  | input
  deriving DecidableEq, Repr

def Position.missing : Position → Wrapper
  | output => .maybe
  | input => .inputMaybe

end Code

namespace Settings

open Code

/-- The type of an attribute at a position, without an override. -/
def attributeAt (s : Settings) (p : Position) (t : TypeRef) (hasDefault : Bool) (core : String) :
    AttributeType String :=
  match p with
  | .output => s.outputAttribute t core
  | .input => s.inputAttribute t hasDefault none core

/-- Whether the innermost types at a position are wrapped for their field. -/
def wrapsFieldAt (s : Settings) (p : Position) : Bool := p = .output && s.wrapFields

/-- Whether fields are wrapped as a whole at a position. -/
def wrapsWholeAt (s : Settings) (p : Position) : Bool := p = .output && s.wrapEntireFields

/-- What the wrappers of a type say of it: which levels may be missing, which are lists, and what the
settings wrap innermost and outermost. -/
structure Shows (s : Settings) (p : Position) (t : TypeRef) (ws : List Wrapper) : Prop where
  missing : ws.count p.missing = t.levels.count true
  many : ws.count s.arrayWrapper = t.depth
  only : ∀ w ∈ ws, w = p.missing ∨ w = s.arrayWrapper ∨
    (w = .field ∧ s.wrapsFieldAt p = true) ∨ (w = .entireField ∧ s.wrapsWholeAt p = true)
  field : s.wrapsFieldAt p = true → ∃ outer, ws = outer ++ [.field] ∧ .field ∉ outer
  whole : s.wrapsWholeAt p = true → ∃ inner, ws = .entireField :: inner ∧ .entireField ∉ inner

/-- The wrappers of the levels at a position, between those of the whole field and of the innermost
type. -/
def levelsAt (s : Settings) (p : Position) (t : TypeRef) : List Wrapper :=
  levelWrappers p.missing s.arrayWrapper [] t

theorem wrappers_attributeAt (s : Settings) (p : Position) (t : TypeRef) (hasDefault : Bool)
    (core : String) :
    (s.attributeAt p t hasDefault core).type.wrappers =
      (if s.wrapsWholeAt p then [.entireField] else []) ++ (s.levelsAt p t ++
        if s.wrapsFieldAt p then [.field] else []) := by
  cases p with
  | output =>
    have hlevels := levelWrappers_append .maybe s.arrayWrapper
      (if s.wrapFields then [.field] else []) t
    simpa [attributeAt, outputAttribute, outputExpr, wrapsWholeAt, wrapsFieldAt, levelsAt,
      Position.missing] using hlevels
  | input =>
    simp [attributeAt, inputAttribute, inputExpr, wrapsWholeAt, wrapsFieldAt, levelsAt,
      Position.missing]

theorem missing_ne_array (s : Settings) (p : Position) : p.missing ≠ s.arrayWrapper := by
  unfold arrayWrapper
  cases p <;> split <;> decide

theorem mem_levelsAt {s : Settings} {p : Position} {t : TypeRef} {w : Wrapper}
    (h : w ∈ s.levelsAt p t) : w = p.missing ∨ w = s.arrayWrapper := by
  rcases mem_levelWrappers h with h | h | h
  · exact Or.inl h
  · exact Or.inr h
  · cases h

theorem notMem_levelsAt {s : Settings} {p : Position} {t : TypeRef} {w : Wrapper}
    (hw : w = .field ∨ w = .entireField) : w ∉ s.levelsAt p t := by
  intro h
  rcases mem_levelsAt h with rfl | rfl
  · cases p <;> simp [Position.missing] at hw
  · unfold arrayWrapper at hw
    split at hw <;> simp at hw

theorem shows_attributeAt (s : Settings) (p : Position) (t : TypeRef) (hasDefault : Bool)
    (core : String) : s.Shows p t (s.attributeAt p t hasDefault core).type.wrappers := by
  rw [wrappers_attributeAt]
  have hfield : Wrapper.field ∉ s.levelsAt p t := notMem_levelsAt (Or.inl rfl)
  have hwhole : Wrapper.entireField ∉ s.levelsAt p t := notMem_levelsAt (Or.inr rfl)
  have hmissing : (s.levelsAt p t).count p.missing = t.levels.count true :=
    count_missing (s.missing_ne_array p) List.not_mem_nil t
  have hmany : (s.levelsAt p t).count s.arrayWrapper = t.depth :=
    count_many (s.missing_ne_array p) List.not_mem_nil t
  have hp : p.missing ≠ .field ∧ p.missing ≠ .entireField := by cases p <;> decide
  have ha : s.arrayWrapper ≠ .field ∧ s.arrayWrapper ≠ .entireField := by
    unfold arrayWrapper
    split <;> decide
  constructor
  · rw [List.count_append, List.count_append, hmissing]
    split <;> split <;> simp [hp.1.symm, hp.2.symm]
  · rw [List.count_append, List.count_append, hmany]
    split <;> split <;> simp [ha.1.symm, ha.2.symm]
  · intro w hw
    rw [List.mem_append, List.mem_append] at hw
    rcases hw with hw | hw | hw
    · split at hw
      · next h => exact Or.inr (Or.inr (Or.inr ⟨List.mem_singleton.mp hw, h⟩))
      · cases hw
    · exact (mem_levelsAt hw).imp_right Or.inl
    · split at hw
      · next h => exact Or.inr (Or.inr (Or.inl ⟨List.mem_singleton.mp hw, h⟩))
      · cases hw
  · intro h
    rw [if_pos h, ← List.append_assoc]
    refine ⟨_, rfl, ?_⟩
    rw [List.mem_append, not_or]
    refine ⟨?_, hfield⟩
    split <;> simp
  · intro h
    rw [if_pos h, List.singleton_append]
    refine ⟨_, rfl, ?_⟩
    rw [List.mem_append, not_or]
    refine ⟨hwhole, ?_⟩
    split <;> simp

/-- The text of a type at a position, its innermost type standing for what it is resolved to. -/
def typeTextAt (s : Settings) (p : Position) (resolve : Position → String → String) (t : TypeRef)
    (hasDefault : Bool) : String :=
  (s.attributeAt p t hasDefault (resolve p t.name)).type.render id

theorem typeTextAt_eq (s : Settings) (p : Position) (resolve : Position → String → String)
    (t : TypeRef) (hasDefault : Bool) :
    s.typeTextAt p resolve t hasDefault =
      wrapText (s.attributeAt p t hasDefault (resolve p t.name)).type.wrappers
        (resolve p t.name) := by
  cases p <;> rfl

theorem typeTextAt_injective {s : Settings} {p : Position} {resolve : Position → String → String}
    {t u : TypeRef} {d e : Bool} (ht : Unwrapped (resolve p t.name))
    (hu : Unwrapped (resolve p u.name))
    (h : s.typeTextAt p resolve t d = s.typeTextAt p resolve u e) :
    t.levels = u.levels ∧ resolve p t.name = resolve p u.name := by
  have hnot : ∀ t : TypeRef,
      .entireField ∉ s.levelsAt p t ++ if s.wrapsFieldAt p then [.field] else [] := by
    intro t
    rw [List.mem_append, not_or]
    refine ⟨notMem_levelsAt (Or.inr rfl), ?_⟩
    split <;> simp
  rw [typeTextAt_eq, typeTextAt_eq, wrappers_attributeAt, wrappers_attributeAt] at h
  -- The wrapper of the whole field goes by the position alone.
  have hinner : wrapText (s.levelsAt p t ++ if s.wrapsFieldAt p then [.field] else [])
        (resolve p t.name) =
      wrapText (s.levelsAt p u ++ if s.wrapsFieldAt p then [.field] else [])
        (resolve p u.name) := by
    split at h
    · have hlist := congrArg String.toList h
      rw [List.singleton_append, List.singleton_append, toList_wrapText_cons,
        toList_wrapText_cons] at hlist
      exact String.toList_inj.mp (List.append_cancel_right (opening_injective hlist).2)
    · exact h
  obtain ⟨hwrappers, hcore⟩ := wrapText_injective (hnot t) (hnot u) ht hu hinner
  exact ⟨levels_of_levelWrappers (s.missing_ne_array p) (List.append_cancel_right hwrappers), hcore⟩

/-- **The text of a type shows its levels.** The wrappers around the innermost type count its missing
levels and its lists, with the wrapper of the field innermost and that of the whole field outermost
where the settings ask for them; and two types are written alike only if they agree at each level and
in what their innermost types are resolved to. -/
theorem typeText_faithful (s : Settings) (p : Position) (resolve : Position → String → String)
    (t : TypeRef) (hasDefault : Bool) :
    (∃ ws, s.typeTextAt p resolve t hasDefault = wrapText ws (resolve p t.name) ∧
      s.Shows p t ws) ∧
    ∀ u hasDefault', Unwrapped (resolve p t.name) → Unwrapped (resolve p u.name) →
      (s.typeTextAt p resolve t hasDefault = s.typeTextAt p resolve u hasDefault' ↔
        t.depth = u.depth ∧ t.levels = u.levels ∧ resolve p t.name = resolve p u.name) := by
  refine ⟨⟨_, typeTextAt_eq .., shows_attributeAt ..⟩, fun u hasDefault' ht hu => ⟨?_, ?_⟩⟩
  · intro h
    obtain ⟨hlevels, hcore⟩ := typeTextAt_injective ht hu h
    have hlength := congrArg List.length hlevels
    rw [TypeRef.length_levels, TypeRef.length_levels] at hlength
    exact ⟨Nat.succ.inj hlength, hlevels, hcore⟩
  · rintro ⟨_, hlevels, hcore⟩
    rw [typeTextAt_eq, typeTextAt_eq, wrappers_attributeAt, wrappers_attributeAt, levelsAt, levelsAt,
      levelWrappers_of_levels _ _ hlevels, hcore]

def everyWrapper : Options := Options.ofTable [("immutable_types", .bool true),
  ("wrap_field_definitions", .bool true), ("wrap_entire_field_definitions", .bool true)]

/-- Users and their guests share an alias that is called like a wrapper. -/
def sharedAlias (_ : Position) (_ : String) : String := "EntireFieldWrapper<Node>"

theorem typeText_faithful_aliased : ∃ s, Settings.ofOptions everyWrapper = .ok s ∧
    Unwrapped (sharedAlias .output "User") ∧
    s.typeTextAt .output sharedAlias (.list false (.named true "User")) false =
      "EntireFieldWrapper<ReadonlyArray<Maybe<FieldWrapper<EntireFieldWrapper<Node>>>>>" ∧
    s.typeTextAt .output sharedAlias (.list false (.named true "User")) false =
      s.typeTextAt .output sharedAlias (.list false (.named true "Guest")) true ∧
    s.typeTextAt .output sharedAlias (.list false (.named true "User")) false ≠
      s.typeTextAt .output sharedAlias (.list true (.named false "User")) false := by
  have hcore (name : String) : Unwrapped (sharedAlias .output name) := by
    have halias : Unwrapped "EntireFieldWrapper<Node>" := by decide
    exact halias
  refine ⟨_, rfl, hcore _, by decide, ?_, ?_⟩
  · exact ((typeText_faithful _ .output sharedAlias _ _).2 _ _ (hcore _) (hcore _)).mpr
      ⟨rfl, rfl, rfl⟩
  · intro h
    obtain ⟨_, hlevels, _⟩ :=
      ((typeText_faithful _ .output sharedAlias _ _).2 _ _ (hcore _) (hcore _)).mp h
    exact absurd hlevels (by decide)

end Settings

end SchemaTypings
