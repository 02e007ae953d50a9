import Mathlib.Data.List.Forall2

/-!
# Runs that may fail

What a run in `Except` has done when it gives a result: each of its steps gave one.
-/

namespace SchemaTypings.Outcome

variable {ε ε' α β : Type}

theorem bind_eq_ok {x : Except ε α} {f : α → Except ε β} {b : β} :
    x >>= f = .ok b ↔ ∃ a, x = .ok a ∧ f a = .ok b := by
  cases x with
  | error e => simp [bind, Except.bind]
  | ok a => simp [bind, Except.bind]

theorem ok_bind (a : α) (f : α → Except ε β) : Except.ok a >>= f = f a := rfl

theorem bind_congr_ok {x : Except ε α} {f g : α → Except ε β} (h : ∀ a, x = .ok a → f a = g a) :
    x >>= f = x >>= g := by
  cases x with
  | error e => rfl
  | ok a => exact h a rfl

theorem pure_eq_ok {a b : α} : (pure a : Except ε α) = .ok b ↔ a = b := by
  simp [pure, Except.pure]

theorem map_eq_ok {x : Except ε α} {f : α → β} {b : β} :
    x.map f = .ok b ↔ ∃ a, x = .ok a ∧ f a = b := by
  cases x <;> simp [Except.map]

theorem mapError_eq_ok {x : Except ε α} {f : ε → ε'} {a : α} :
    x.mapError f = .ok a ↔ x = .ok a := by
  cases x with
  | error e => simp [Except.mapError]
  | ok b => simp [Except.mapError]

theorem toOption_eq_some {x : Except ε α} {a : α} : x.toOption = some a ↔ x = .ok a := by
  cases x <;> simp [Except.toOption]

/-! ## Runs over lists -/

theorem mapM_eq_ok {f : α → Except ε β} {xs : List α} {ys : List β} :
    xs.mapM f = .ok ys ↔ List.Forall₂ (fun x y => f x = .ok y) xs ys := by
  induction xs generalizing ys with
  | nil =>
    rw [List.mapM_nil, pure_eq_ok, List.forall₂_nil_left_iff]
    exact eq_comm
  | cons x xs ih =>
    rw [List.mapM_cons, bind_eq_ok]
    constructor
    · rintro ⟨y, hy, h⟩
      obtain ⟨zs, hzs, h⟩ := bind_eq_ok.mp h
      rw [pure_eq_ok] at h
      rw [← h]
      exact .cons hy (ih.mp hzs)
    · intro h
      cases h with
      | cons hy hzs => exact ⟨_, hy, bind_eq_ok.mpr ⟨_, ih.mpr hzs, rfl⟩⟩

theorem exists_of_mem_right {R : α → β → Prop} {xs : List α} {ys : List β}
    (h : List.Forall₂ R xs ys) {y : β} (hy : y ∈ ys) : ∃ x ∈ xs, R x y := by
  induction h with
  | nil => cases hy
  | cons hxy _ ih =>
    rcases List.mem_cons.mp hy with rfl | hy
    · exact ⟨_, List.mem_cons_self, hxy⟩
    · obtain ⟨x, hx, h⟩ := ih hy
      exact ⟨x, List.mem_cons_of_mem _ hx, h⟩

theorem exists_of_mem_left {R : α → β → Prop} {xs : List α} {ys : List β}
    (h : List.Forall₂ R xs ys) {x : α} (hx : x ∈ xs) : ∃ y ∈ ys, R x y :=
  exists_of_mem_right h.flip hx

theorem exists_of_mem_mapM {f : α → Except ε β} {xs : List α} {ys : List β}
    (h : xs.mapM f = .ok ys) {y : β} (hy : y ∈ ys) : ∃ x ∈ xs, f x = .ok y :=
  exists_of_mem_right (mapM_eq_ok.mp h) hy

theorem forall_of_mapM {f : α → Except ε β} {xs : List α} {ys : List β} {P : β → Prop}
    (h : xs.mapM f = .ok ys) (hf : ∀ x ∈ xs, ∀ y, f x = .ok y → P y) : ∀ y ∈ ys, P y := by
  intro y hy
  obtain ⟨x, hx, hxy⟩ := exists_of_mem_mapM h hy
  exact hf x hx y hxy

theorem exists_mem_of_mapM {f : α → Except ε β} {xs : List α} {ys : List β}
    (h : xs.mapM f = .ok ys) {x : α} (hx : x ∈ xs) : ∃ y ∈ ys, f x = .ok y :=
  exists_of_mem_left (mapM_eq_ok.mp h) hx

theorem exists_of_mapM_error {f : α → Except ε β} {xs : List α} {e : ε}
    (h : xs.mapM f = .error e) : ∃ x ∈ xs, f x = .error e := by
  induction xs with
  | nil => cases h
  | cons x xs ih =>
    rw [List.mapM_cons] at h
    cases hx : f x with
    | error e' =>
      rw [hx] at h
      cases h
      exact ⟨x, List.mem_cons_self, hx⟩
    | ok y =>
      rw [hx, ok_bind] at h
      cases hxs : xs.mapM f with
      | error e' =>
        rw [hxs] at h
        cases h
        obtain ⟨z, hz, hfz⟩ := ih hxs
        exact ⟨z, List.mem_cons_of_mem _ hz, hfz⟩
      | ok ys =>
        rw [hxs] at h
        cases h

theorem mapM_snoc {f : α → Except ε β} {xs : List α} {ys : List β} {x : α} {y : β}
    (h : xs.mapM f = .ok ys) (hx : f x = .ok y) : (xs ++ [x]).mapM f = .ok (ys ++ [y]) := by
  rw [mapM_eq_ok] at h ⊢
  exact List.rel_append h (.cons hx .nil)

theorem mapM_image {α' β' : Type} {f : α → Except ε β} {g : α' → Except ε β'} {φ : α → α'}
    {ψ : β → β'} (hstep : ∀ x y, f x = .ok y → g (φ x) = .ok (ψ y)) {xs : List α} {ys : List β}
    (h : xs.mapM f = .ok ys) : (xs.map φ).mapM g = .ok (ys.map ψ) := by
  rw [mapM_eq_ok, List.forall₂_map_left_iff, List.forall₂_map_right_iff]
  exact (mapM_eq_ok.mp h).imp hstep

theorem mapM_congr {f g : α → Except ε β} {xs : List α} (h : ∀ x ∈ xs, f x = g x) :
    xs.mapM f = xs.mapM g := by
  induction xs with
  | nil => rfl
  | cons x xs ih =>
    rw [List.forall_mem_cons] at h
    rw [List.mapM_cons, List.mapM_cons, h.1, ih h.2]

theorem forM_eq_ok {f : α → Except ε PUnit} {xs : List α} :
    xs.forM f = .ok () ↔ ∀ x ∈ xs, f x = .ok () := by
  induction xs with
  | nil => exact ⟨fun _ => List.forall_mem_nil _, fun _ => rfl⟩
  | cons x xs ih =>
    rw [List.forall_mem_cons, ← ih]
    refine bind_eq_ok.trans ⟨?_, ?_⟩
    · rintro ⟨⟨⟩, hx, hxs⟩
      exact ⟨hx, hxs⟩
    · rintro ⟨hx, hxs⟩
      exact ⟨(), hx, hxs⟩

theorem exists_mapM {f : α → Except ε β} {xs : List α} (h : ∀ x ∈ xs, ∃ y, f x = .ok y) :
    ∃ ys, xs.mapM f = .ok ys := by
  induction xs with
  | nil => exact ⟨[], rfl⟩
  | cons x xs ih =>
    rw [List.forall_mem_cons] at h
    obtain ⟨y, hy⟩ := h.1
    obtain ⟨ys, hys⟩ := ih h.2
    exact ⟨y :: ys, mapM_eq_ok.mpr (.cons hy (mapM_eq_ok.mp hys))⟩

theorem mapM_eq_error {f : α → Except ε β} {before : List α} {x : α} {e : ε} (after : List α)
    (hbefore : ∀ b ∈ before, ∃ y, f b = .ok y) (hx : f x = .error e) :
    (before ++ x :: after).mapM f = .error e := by
  induction before with
  | nil =>
    rw [List.nil_append, List.mapM_cons, hx]
    rfl
  | cons b before ih =>
    rw [List.forall_mem_cons] at hbefore
    obtain ⟨y, hy⟩ := hbefore.1
    rw [List.cons_append, List.mapM_cons, hy, ih hbefore.2]
    rfl

/-- What each step of a run over a list keeps, of the items done so far, holds of all at the end. -/
theorem foldlM_invariant {σ : Type} {f : σ → α → Except ε σ} (P : List α → σ → Prop)
    (hstep : ∀ done x s s', P done s → f s x = .ok s' → P (done ++ [x]) s') {xs : List α} {s s' : σ}
    (h : xs.foldlM f s = .ok s') (hs : P [] s) : P xs s' := by
  -- The items done so far go along in the induction.
  have hrun : ∀ xs done s, P done s → xs.foldlM f s = .ok s' → P (done ++ xs) s' := by
    intro xs
    induction xs with
    | nil =>
      intro done s hs h
      rw [List.foldlM_nil, pure_eq_ok] at h
      rwa [List.append_nil, ← h]
    | cons x xs ih =>
      intro done s hs h
      rw [List.foldlM_cons] at h
      obtain ⟨next, hnext, h⟩ := bind_eq_ok.mp h
      rw [List.append_cons]
      exact ih _ _ (hstep _ _ _ _ hs hnext) h
  exact hrun xs [] s hs h

theorem foldlM_total {σ : Type} {f : σ → α → Except ε σ} {P : σ → Prop} {xs : List α}
    (hstep : ∀ x ∈ xs, ∀ s, P s → ∃ s', f s x = .ok s' ∧ P s') {s : σ} (hs : P s) :
    ∃ s', xs.foldlM f s = .ok s' ∧ P s' := by
  induction xs generalizing s with
  | nil => exact ⟨s, rfl, hs⟩
  | cons x xs ih =>
    rw [List.forall_mem_cons] at hstep
    obtain ⟨next, hnext, hP⟩ := hstep.1 s hs
    obtain ⟨last, hlast, hP⟩ := ih hstep.2 hP
    exact ⟨last, by rw [List.foldlM_cons, bind_eq_ok]; exact ⟨next, hnext, hlast⟩, hP⟩

/-! ## Faults -/

/-- A run fails with the given fault, or it has a result if none is given. -/
def Settles (x : Except ε α) : Option ε → Prop
  | some e => x = .error e
  | none => ∃ a, x = .ok a

theorem Settles.bind {x : Except ε α} {f : α → Except ε β} {fault fault' : Option ε}
    (h : Settles x fault) (hf : ∀ a, x = .ok a → Settles (f a) fault') :
    Settles (x >>= f) (fault.or fault') := by
  cases fault with
  | some e =>
    obtain rfl : x = .error e := h
    exact rfl
  | none =>
    obtain ⟨a, rfl⟩ := h
    exact hf a rfl

theorem Settles.map {x : Except ε α} {fault : Option ε} (h : Settles x fault) (f : α → β) :
    Settles (x.map f) fault := by
  cases fault with
  | some e =>
    obtain rfl : x = .error e := h
    exact rfl
  | none =>
    obtain ⟨a, rfl⟩ := h
    exact ⟨f a, rfl⟩

theorem Settles.mapError {x : Except ε α} {fault : Option ε} (h : Settles x fault) (f : ε → ε') :
    Settles (x.mapError f) (fault.map f) := by
  cases fault with
  | some e =>
    obtain rfl : x = .error e := h
    exact rfl
  | none =>
    obtain ⟨a, rfl⟩ := h
    exact ⟨a, rfl⟩

theorem settles_pure (a : α) : Settles (pure a : Except ε α) none := ⟨a, rfl⟩

theorem Settles.bind_pure {x : Except ε α} {fault : Option ε} (h : Settles x fault) (f : α → β) :
    Settles (x >>= fun a => pure (f a)) fault := by
  have hrun := h.bind fun a _ => settles_pure (f a)
  rwa [Option.or_none] at hrun

theorem settles_mapM {f : α → Except ε β} {fault? : α → Option ε} {xs : List α}
    (h : ∀ x ∈ xs, Settles (f x) (fault? x)) : Settles (xs.mapM f) (xs.findSome? fault?) := by
  induction xs with
  | nil => exact settles_pure []
  | cons x xs ih =>
    rw [List.forall_mem_cons] at h
    have hrun : Settles (do return (← f x) :: (← xs.mapM f))
        ((fault? x).or (xs.findSome? fault?)) :=
      h.1.bind fun y _ => (ih h.2).bind_pure fun ys => y :: ys
    rw [List.mapM_cons, List.findSome?_cons]
    cases hx : fault? x <;> simpa [hx] using hrun

/-! ## Kinds of faults -/

/-- Whatever a run fails with is of this kind. -/
def FailsWith (P : ε → Prop) (x : Except ε α) : Prop := ∀ e, x = .error e → P e

theorem failsWith_ok {P : ε → Prop} (a : α) : FailsWith P (.ok a : Except ε α) := by
  intro e h
  cases h

theorem failsWith_error {P : ε → Prop} {e : ε} (h : P e) :
    FailsWith P (.error e : Except ε α) := by
  intro e' he
  cases he
  exact h

theorem FailsWith.bind {P : ε → Prop} {x : Except ε α} {f : α → Except ε β} (hx : FailsWith P x)
    (hf : ∀ a, FailsWith P (f a)) : FailsWith P (x >>= f) := by
  cases x with
  | ok a => exact hf a
  | error e => exact failsWith_error (hx e rfl)

theorem FailsWith.map {P : ε → Prop} {x : Except ε α} (hx : FailsWith P x) (f : α → β) :
    FailsWith P (x.map f) := by
  cases x with
  | ok a => exact failsWith_ok (f a)
  | error e => exact failsWith_error (hx e rfl)

theorem failsWith_mapM {P : ε → Prop} {f : α → Except ε β} (hf : ∀ a, FailsWith P (f a))
    (xs : List α) : FailsWith P (xs.mapM f) := by
  intro e h
  obtain ⟨x, _, hx⟩ := exists_of_mapM_error h
  exact hf x e hx

theorem failsWith_forM {P : ε → Prop} {f : α → Except ε PUnit} (hf : ∀ a, FailsWith P (f a))
    (xs : List α) : FailsWith P (xs.forM f) := by
  induction xs with
  | nil => exact failsWith_ok _
  | cons x xs ih => exact (hf x).bind fun _ => ih

end SchemaTypings.Outcome
