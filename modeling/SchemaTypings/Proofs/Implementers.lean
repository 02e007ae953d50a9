import Mathlib.Algebra.BigOperators.Group.Finset.Basic
import Mathlib.Algebra.Order.BigOperators.Group.Finset
import Mathlib.Data.List.Nodup
import Mathlib.Logic.Relation
import SchemaTypings.Schema.Basic

/-!
# The objects that implement an interface

The walk over the interfaces below one visits each of them once, whatever cycles they form, and
collects the objects that name one of them. It is described without a bound on its steps first; the
bound of the definition is then shown to be enough for every walk.
-/

namespace SchemaTypings.Schema

def isObject (t : NamedType) : Bool :=
  match t.body with
  | .object .. => true
  | _ => false

def isInterface (t : NamedType) : Bool :=
  match t.body with
  | .interface .. => true
  | _ => false

/-- The name of an object of the schema. -/
def NamesObject (s : Schema) (name : String) : Prop :=
  ∃ t ∈ s.types, t.name = name ∧ isObject t = true

/-- An object that names an interface as its own. -/
def Implements (s : Schema) (object interface : String) : Prop :=
  ∃ t ∈ s.types, t.name = object ∧ isObject t = true ∧ interface ∈ t.interfaces

/-- The second interface names the first as its own. -/
def Above (s : Schema) (upper lower : String) : Prop :=
  ∃ t ∈ s.types, t.name = lower ∧ isInterface t = true ∧ upper ∈ t.interfaces

theorem mem_directObjects {s : Schema} {i o : String} :
    o ∈ s.directObjects i ↔ s.Implements o i := by
  unfold directObjects Implements
  rw [List.mem_flatMap]
  refine exists_congr fun t => and_congr_right fun _ => ?_
  cases hb : t.body <;> simp [isObject, NamedType.interfaces, hb, and_comm, @eq_comm _ o]

theorem mem_directInterfaces {s : Schema} {i j : String} :
    j ∈ s.directInterfaces i ↔ s.Above i j := by
  unfold directInterfaces Above
  rw [List.mem_flatMap]
  refine exists_congr fun t => and_congr_right fun _ => ?_
  cases hb : t.body <;> simp [isInterface, NamedType.interfaces, hb, and_comm, @eq_comm _ j]

/-! ## Names that are added once -/

theorem mem_addNew {known names : List String} {n : String} :
    n ∈ addNew known names ↔ n ∈ known ∨ n ∈ names := by
  unfold addNew
  induction names generalizing known with
  | nil => simp
  | cons name names ih =>
    rw [List.foldl_cons, ih]
    split
    · next hknown =>
      have hknown : name ∈ known := by simpa using hknown
      constructor
      · rintro (h | h)
        · exact Or.inl h
        · exact Or.inr (List.mem_cons_of_mem _ h)
      · rintro (h | h)
        · exact Or.inl h
        · rcases List.mem_cons.mp h with rfl | h
          · exact Or.inl hknown
          · exact Or.inr h
    · simp [or_assoc]

theorem nodup_addNew {known : List String} (h : known.Nodup) (names : List String) :
    (addNew known names).Nodup := by
  unfold addNew
  induction names generalizing known with
  | nil => exact h
  | cons name names ih =>
    rw [List.foldl_cons]
    split
    · exact ih h
    · next hnew =>
      apply ih
      rw [List.nodup_append]
      refine ⟨h, List.nodup_singleton name, ?_⟩
      intro a ha b hb hab
      rw [List.mem_singleton] at hb
      apply hnew
      simpa [← hb, ← hab] using ha

/-! ## The walk -/

/-- The interfaces that a walk has seen, and the objects that it has found. -/
abbrev WalkState := List String × List String

/-- The walk below some interfaces, one after the other: from the interfaces that are seen and the
objects that are found before it to those after it. An interface that is seen is not visited again. -/
inductive Walk (s : Schema) :
    List String → WalkState → WalkState → Prop
  | done (state : WalkState) : Walk s [] state state
  | skip {i : String} {rest : List String} {before after : WalkState}
      (hseen : i ∈ before.1) (hrest : Walk s rest before after) : Walk s (i :: rest) before after
  | visit {i : String} {rest seen found : List String} {between after : WalkState}
      (hnew : i ∉ seen)
      (hbelow : Walk s (s.directInterfaces i)
        (seen ++ [i], addNew found (s.directObjects i)) between)
      (hrest : Walk s rest between after) : Walk s (i :: rest) (seen, found) after

theorem Walk.unique {s : Schema} {is : List String} {before after after' : WalkState}
    (h : s.Walk is before after) (h' : s.Walk is before after') : after = after' := by
  induction h generalizing after' with
  | done => cases h'; rfl
  | skip hseen _ ih =>
    cases h' with
    | skip _ hrest => exact ih hrest
    | visit hnew => exact absurd hseen hnew
  | visit hnew _ _ ihbelow ihrest =>
    cases h' with
    | skip hseen => exact absurd hseen hnew
    | visit _ hbelow hrest =>
      obtain rfl := ihbelow hbelow
      exact ihrest hrest

theorem Walk.cons {s : Schema} {i : String} {rest : List String}
    {before between after : WalkState} (h : s.Walk [i] before between)
    (hrest : s.Walk rest between after) : s.Walk (i :: rest) before after := by
  cases h with
  | skip hseen hdone => cases hdone; exact .skip hseen hrest
  | visit hnew hbelow hdone => cases hdone; exact .visit hnew hbelow hrest

/-- What a walk has done: every interface that it came to is seen, with those below it, and the
objects of each one that is new are found. -/
structure Explored (s : Schema) (is : List String) (before after : WalkState) :
    Prop where
  kept : before.1 ⊆ after.1
  seen : is ⊆ after.1
  closed : ∀ i ∈ after.1, i ∉ before.1 → ∀ j, s.Above i j → j ∈ after.1
  below : ∀ j ∈ after.1, j ∉ before.1 → ∃ i ∈ is, Relation.ReflTransGen s.Above i j
  found : ∀ o, o ∈ after.2 ↔ o ∈ before.2 ∨ ∃ i ∈ after.1, i ∉ before.1 ∧ s.Implements o i

theorem Walk.explored {s : Schema} {is : List String} {before after : WalkState}
    (h : s.Walk is before after) : s.Explored is before after := by
  induction h with
  | done state =>
    constructor
    · exact fun _ hi => hi
    · simp
    · exact fun i hi hnew => absurd hi hnew
    · exact fun i hi hnew => absurd hi hnew
    · intro o
      constructor
      · exact Or.inl
      · rintro (ho | ⟨i, hi, hnew, _⟩)
        · exact ho
        · exact absurd hi hnew
  | @skip i rest before after hseen _ ih =>
    refine ⟨ih.kept, ?_, ih.closed, ?_, ih.found⟩
    · exact List.cons_subset.mpr ⟨ih.kept hseen, ih.seen⟩
    · intro j hj hnew
      obtain ⟨k, hk, hkj⟩ := ih.below j hj hnew
      exact ⟨k, List.mem_cons_of_mem _ hk, hkj⟩
  | @visit i rest seen found between after hnew _ _ ihbelow ihrest =>
    have hkept : seen ++ [i] ⊆ between.1 := ihbelow.kept
    have hi : i ∈ between.1 := hkept (by simp)
    -- An interface that is new after the visit is this one, or one below it, or one of the rest.
    have hcases : ∀ j ∈ after.1, j ∉ seen → j = i ∨ (j ∈ between.1 ∧ j ∉ seen ++ [i]) ∨
        j ∉ between.1 := by
      intro j _ hj
      by_cases hjb : j ∈ between.1
      · by_cases hji : j = i
        · exact Or.inl hji
        · exact Or.inr (Or.inl ⟨hjb, by simp [hj, hji]⟩)
      · exact Or.inr (Or.inr hjb)
    constructor
    · exact fun j hj => ihrest.kept (hkept (List.mem_append_left _ hj))
    · exact List.cons_subset.mpr ⟨ihrest.kept hi, ihrest.seen⟩
    · intro j hj hjs k hjk
      rcases hcases j hj hjs with rfl | ⟨hjb, hjn⟩ | hjn
      · exact ihrest.kept (ihbelow.seen (mem_directInterfaces.mpr hjk))
      · exact ihrest.kept (ihbelow.closed j hjb hjn k hjk)
      · exact ihrest.closed j hj hjn k hjk
    · intro j hj hjs
      rcases hcases j hj hjs with rfl | ⟨hjb, hjn⟩ | hjn
      · exact ⟨j, List.mem_cons_self, .refl⟩
      · obtain ⟨k, hk, hkj⟩ := ihbelow.below j hjb hjn
        exact ⟨i, List.mem_cons_self, .head (mem_directInterfaces.mp hk) hkj⟩
      · obtain ⟨k, hk, hkj⟩ := ihrest.below j hj hjn
        exact ⟨k, List.mem_cons_of_mem _ hk, hkj⟩
    · intro o
      rw [ihrest.found, ihbelow.found, mem_addNew, mem_directObjects]
      constructor
      · rintro (((ho | ho) | ⟨j, hj, hjn, ho⟩) | ⟨j, hj, hjn, ho⟩)
        · exact Or.inl ho
        · exact Or.inr ⟨i, ihrest.kept hi, hnew, ho⟩
        · exact Or.inr ⟨j, ihrest.kept hj, fun hjs => hjn (List.mem_append_left _ hjs), ho⟩
        · exact Or.inr ⟨j, hj, fun hjs => hjn (hkept (List.mem_append_left _ hjs)), ho⟩
      · rintro (ho | ⟨j, hj, hjs, ho⟩)
        · exact Or.inl (Or.inl (Or.inl ho))
        · rcases hcases j hj hjs with rfl | ⟨hjb, hjn⟩ | hjn
          · exact Or.inl (Or.inl (Or.inr ho))
          · exact Or.inl (Or.inr ⟨j, hjb, hjn, ho⟩)
          · exact Or.inr ⟨j, hj, hjn, ho⟩

theorem Walk.nodup {s : Schema} {is : List String} {before after : WalkState}
    (h : s.Walk is before after) (hbefore : before.2.Nodup) : after.2.Nodup := by
  induction h with
  | done => exact hbefore
  | skip _ _ ih => exact ih hbefore
  | visit _ _ _ ihbelow ihrest => exact ihrest (ihbelow (nodup_addNew hbefore _))

theorem Explored.mem_iff {s : Schema} {i j : String} {after : WalkState}
    (h : s.Explored [i] ([], []) after) : j ∈ after.1 ↔ Relation.ReflTransGen s.Above i j := by
  constructor
  · intro hj
    obtain ⟨k, hk, hkj⟩ := h.below j hj List.not_mem_nil
    rwa [List.mem_singleton.mp hk] at hkj
  · intro hij
    induction hij with
    | refl => exact h.seen List.mem_cons_self
    | tail _ hjk ih => exact h.closed _ ih List.not_mem_nil _ hjk

/-! ## The bound -/

/-- All names that a walk can come to. -/
def walkNames (s : Schema) (start : String) : Finset String :=
  (start :: (s.types.map (·.name) ++ s.types.flatMap (·.interfaces))).toFinset

theorem directInterfaces_subset {s : Schema} {start i : String} :
    ∀ j ∈ s.directInterfaces i, j ∈ s.walkNames start := by
  intro j hj
  obtain ⟨t, ht, rfl, _⟩ := mem_directInterfaces.mp hj
  have hname : t.name ∈ s.types.map (·.name) := List.mem_map_of_mem ht
  simp [walkNames, hname]

/-- The steps that the interfaces which are not seen yet can take: each is visited once and goes
through those directly below it. -/
def stepsLeft (s : Schema) (start : String) (seen : List String) : Nat :=
  ∑ i ∈ (s.walkNames start).filter (· ∉ seen), ((s.directInterfaces i).length + 1)

theorem stepsLeft_mono {s : Schema} {start : String} {seen seen' : List String}
    (h : seen ⊆ seen') : s.stepsLeft start seen' ≤ s.stepsLeft start seen := by
  apply Finset.sum_le_sum_of_subset
  intro i hi
  rw [Finset.mem_filter] at hi ⊢
  exact ⟨hi.1, fun hseen => hi.2 (h hseen)⟩

theorem stepsLeft_visit {s : Schema} {start i : String} {seen : List String}
    (hi : i ∈ s.walkNames start) (hnew : i ∉ seen) :
    s.stepsLeft start seen =
      (s.directInterfaces i).length + 1 + s.stepsLeft start (seen ++ [i]) := by
  have hrest : (s.walkNames start).filter (· ∉ seen ++ [i]) =
      ((s.walkNames start).filter (· ∉ seen)).erase i := by
    ext j
    simp only [Finset.mem_filter, Finset.mem_erase, List.mem_append, List.mem_singleton]
    tauto
  have hmem : i ∈ (s.walkNames start).filter (· ∉ seen) := Finset.mem_filter.mpr ⟨hi, hnew⟩
  unfold stepsLeft
  rw [hrest, Finset.add_sum_erase _ (fun i => (s.directInterfaces i).length + 1) hmem]

theorem length_directInterfaces (s : Schema) (i : String) :
    (s.directInterfaces i).length ≤ (s.types.flatMap (·.interfaces)).count i := by
  unfold directInterfaces
  rw [List.length_flatMap, List.count_flatMap]
  apply List.sum_le_sum
  intro t _
  cases hb : t.body <;>
    simp [NamedType.interfaces, hb, List.count_eq_length_filter, beq_eq_decide]

theorem stepsLeft_le_walkBound (s : Schema) (start : String) :
    s.stepsLeft start [] ≤ s.walkBound := by
  let links := s.types.flatMap (·.interfaces)
  have hcard : (s.walkNames start).card ≤ 1 + s.types.length + links.length := by
    refine (List.toFinset_card_le _).trans ?_
    rw [List.length_cons, List.length_append, List.length_map]
    show s.types.length + links.length + 1 ≤ 1 + s.types.length + links.length
    omega
  have hsub : ∀ i ∈ links, i ∈ s.walkNames start := by
    intro i hi
    simp only [walkNames, List.mem_toFinset, List.mem_cons, List.mem_append]
    exact Or.inr (Or.inr hi)
  -- Each link from a type to an interface is counted under that interface.
  have hlinks : ∑ i ∈ s.walkNames start, links.count i = links.length := by
    have hall : ∀ i ∈ (links : Multiset String), i ∈ s.walkNames start := hsub
    simpa using Multiset.sum_count_eq_card hall
  calc s.stepsLeft start []
      = ∑ i ∈ s.walkNames start, ((s.directInterfaces i).length + 1) := by
        simp [stepsLeft]
    _ ≤ ∑ i ∈ s.walkNames start, (links.count i + 1) :=
        Finset.sum_le_sum fun i _ => Nat.add_le_add_right (s.length_directInterfaces i) 1
    _ = links.length + (s.walkNames start).card := by
        rw [Finset.sum_add_distrib, hlinks, Finset.card_eq_sum_ones]
    _ ≤ s.walkBound := by
        have hbound : s.walkBound = 2 * (s.types.length + links.length) + 4 := rfl
        omega

theorem walk_of_stepsLeft (s : Schema) (start : String) (fuel : Nat) :
    (∀ i seen found, i ∈ s.walkNames start → s.stepsLeft start seen ≤ fuel →
      s.Walk [i] (seen, found) (collectObjects s fuel i (seen, found))) ∧
    ∀ is state, (∀ i ∈ is, i ∈ s.walkNames start) →
      is.length + s.stepsLeft start state.1 ≤ fuel →
      s.Walk is state (collectEach s fuel is state) := by
  induction fuel with
  | zero =>
    constructor
    · intro i seen found hi hsteps
      have hseen : i ∈ seen := by
        by_contra hnew
        -- Without steps nothing can be left to see.
        have hvisit := stepsLeft_visit hi hnew
        omega
      rw [collectObjects]
      exact .skip hseen (.done _)
    · intro is state _ hsteps
      obtain rfl : is = [] := List.length_eq_zero_iff.mp (by omega)
      rw [collectEach]
      exact .done state
  | succ fuel ih =>
    constructor
    · intro i seen found hi hsteps
      rw [collectObjects]
      split
      · next hseen => exact .skip (by simpa using hseen) (.done _)
      · next hseen =>
        have hnew : i ∉ seen := by simpa using hseen
        have hvisit := stepsLeft_visit hi hnew
        have hbelow := ih.2 (s.directInterfaces i)
          (seen ++ [i], addNew found (s.directObjects i)) directInterfaces_subset
          (by dsimp only; omega)
        exact .visit hnew hbelow (.done _)
    · rintro is ⟨seen, found⟩ his hsteps
      cases is with
      | nil =>
        rw [collectEach]
        exact .done _
      | cons i rest =>
        rw [List.forall_mem_cons] at his
        rw [List.length_cons] at hsteps
        dsimp only at hsteps
        rw [collectEach]
        have hfirst := ih.1 i seen found his.1 (by omega)
        -- What the first interface has shown is not looked at again, so steps are left for the
        -- others.
        have hkept : s.stepsLeft start (collectObjects s fuel i (seen, found)).1 ≤
            s.stepsLeft start seen := stepsLeft_mono hfirst.explored.kept
        exact hfirst.cons (ih.2 rest _ his.2 (by omega))

theorem walk_implementingObjects (s : Schema) (interface : String) :
    ∃ seen, s.Walk [interface] ([], []) (seen, s.implementingObjects interface) :=
  ⟨_, (walk_of_stepsLeft s interface s.walkBound).1 interface [] [] (by simp [walkNames])
    (stepsLeft_le_walkBound s interface)⟩

theorem mem_implementingObjects {s : Schema} {interface o : String} :
    o ∈ s.implementingObjects interface ↔
      ∃ i, Relation.ReflTransGen s.Above interface i ∧ s.Implements o i := by
  obtain ⟨seen, hwalk⟩ := s.walk_implementingObjects interface
  have hexplored := hwalk.explored
  rw [hexplored.found o]
  constructor
  · rintro (ho | ⟨i, hi, _, ho⟩)
    · cases ho
    · exact ⟨i, hexplored.mem_iff.mp hi, ho⟩
  · rintro ⟨i, hi, ho⟩
    exact Or.inr ⟨i, hexplored.mem_iff.mpr hi, List.not_mem_nil, ho⟩

theorem namesObject_implementing {s : Schema} {i n : String} (h : n ∈ s.implementingObjects i) :
    s.NamesObject n := by
  obtain ⟨_, _, t, ht, hname, hobject, _⟩ := mem_implementingObjects.mp h
  exact ⟨t, ht, hname, hobject⟩

/-- **The implementers of an interface are exactly the reachable ones.** The walk below the interface
ends, with one outcome only, also where interfaces form a cycle; its objects are listed once each, and
they are those that name the interface or one that a chain of interfaces leads down to. -/
theorem implementingObjects_exact (s : Schema) (interface : String) :
    (∃ seen, ∀ after, s.Walk [interface] ([], []) after ↔
      after = (seen, s.implementingObjects interface)) ∧
    (s.implementingObjects interface).Nodup ∧
    ∀ o, o ∈ s.implementingObjects interface ↔
      ∃ i, Relation.ReflTransGen s.Above interface i ∧ s.Implements o i := by
  obtain ⟨seen, hwalk⟩ := s.walk_implementingObjects interface
  refine ⟨⟨seen, fun after => ⟨fun h => h.unique hwalk, ?_⟩⟩, ?_, fun o => mem_implementingObjects⟩
  · rintro rfl
    exact hwalk
  · exact hwalk.nodup List.nodup_nil

end SchemaTypings.Schema
