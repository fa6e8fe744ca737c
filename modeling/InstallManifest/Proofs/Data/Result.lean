import InstallManifest.Data.Result
import Mathlib.Data.List.Forall2

/-!
# Outcomes of composed computations

A computation that is made for each entry of a list succeeds exactly if it succeeds for each entry,
with the outcomes in order; and if it fails, it fails as it does for one of them, and that is the
first one for which it does (`failure?_mapM`).
-/
namespace InstallManifest.Result
variable {ε α β : Type} {f : α → Except ε β} {xs : List α}

instance decidableExistsOk (x : Except ε α) : Decidable (∃ a, x = .ok a) :=
  match x with
  | .ok a => .isTrue ⟨a, rfl⟩
  | .error e => .isFalse (by simp)

instance decidableExistsOkAnd (x : Except ε α) (p : α → Prop) [DecidablePred p] :
    Decidable (∃ a, x = .ok a ∧ p a) :=
  match x with
  | .ok a => decidable_of_iff (p a) (by simp)
  | .error e => .isFalse (by simp)

instance decidableExistsError (x : Except ε α) : Decidable (∃ e, x = .error e) :=
  match x with
  | .ok a => .isFalse (by simp)
  | .error e => .isTrue ⟨e, rfl⟩

theorem toOption_eq_some {x : Except ε α} {a : α} : x.toOption = some a ↔ x = .ok a := by
  cases x <;> simp [Except.toOption]

theorem bind_eq_error {x : Except ε α} {g : α → Except ε β} {e : ε} (h : x >>= g = .error e) :
    x = .error e ∨ ∃ a, x = .ok a ∧ g a = .error e := by
  cases x with
  | error e' =>
    obtain rfl : e' = e := Except.error.inj h
    exact .inl rfl
  | ok a => exact .inr ⟨a, rfl, h⟩

theorem mapM_cons_of_ok {x : α} {y : β} (h : f x = .ok y) :
    (x :: xs).mapM f = (xs.mapM f).map (y :: ·) := by
  rw [List.mapM_cons, h]
  cases xs.mapM f <;> rfl

theorem mapM_cons_of_error {x : α} {e : ε} (h : f x = .error e) :
    (x :: xs).mapM f = .error e := by
  rw [List.mapM_cons, h]
  rfl

theorem mapM_eq_ok_iff {ys : List β} :
    xs.mapM f = .ok ys ↔ List.Forall₂ (fun x y => f x = .ok y) xs ys := by
  induction xs generalizing ys with
  | nil =>
    constructor
    · intro h
      obtain rfl : [] = ys := Except.ok.inj h
      exact .nil
    · rintro ⟨⟩
      rfl
  | cons x xs ih =>
    constructor
    · intro h
      cases hx : f x with
      | error e =>
        rw [mapM_cons_of_error hx] at h
        cases h
      | ok y =>
        rw [mapM_cons_of_ok hx] at h
        obtain ⟨ys, hys, rfl⟩ := exists_of_map h
        exact .cons hx (ih.1 hys)
    · intro h
      obtain ⟨y, ys, hx, hys, rfl⟩ := List.forall₂_cons_left_iff.1 h
      rw [mapM_cons_of_ok hx, ih.2 hys]
      rfl

theorem exists_of_mapM_eq_ok {ys : List β} (h : xs.mapM f = .ok ys) {x : α} (hx : x ∈ xs) :
    ∃ y, f x = .ok y := by
  have heach : List.Forall₂ (fun x y => (∃ y, f x = .ok y) ∧ f x = .ok y) xs ys :=
    (mapM_eq_ok_iff.1 h).imp fun x y hxy => ⟨⟨y, hxy⟩, hxy⟩
  exact ((List.forall₂_and_left _ _).1 heach).1 x hx

theorem exists_mem_of_mapM_eq_ok {ys : List β} (h : xs.mapM f = .ok ys) {y : β} (hy : y ∈ ys) :
    ∃ x ∈ xs, f x = .ok y := by
  have hall : List.Forall₂ (fun x y => f x = .ok y) xs ys := mapM_eq_ok_iff.1 h
  clear h
  induction hall with
  | nil => cases hy
  | @cons x y' xs _ hx _ ih =>
    rcases List.mem_cons.1 hy with rfl | hy
    · exact ⟨x, List.mem_cons_self, hx⟩
    · obtain ⟨x', hx', hfx'⟩ := ih hy
      exact ⟨x', List.mem_cons_of_mem x hx', hfx'⟩

theorem exists_of_mapM_eq_error {e : ε} (h : xs.mapM f = .error e) : ∃ x ∈ xs, f x = .error e := by
  induction xs with
  | nil => cases h
  | cons x xs ih =>
    cases hx : f x with
    | error e' =>
      rw [mapM_cons_of_error hx] at h
      obtain rfl : e' = e := Except.error.inj h
      exact ⟨x, List.mem_cons_self, hx⟩
    | ok y =>
      rw [mapM_cons_of_ok hx] at h
      cases hxs : xs.mapM f with
      | ok ys => simp [hxs, Except.map] at h
      | error e' =>
        obtain rfl : e' = e := by simpa [hxs, Except.map] using h
        obtain ⟨x', hx', hfail⟩ := ih hxs
        exact ⟨x', List.mem_cons_of_mem x hx', hfail⟩

/-! ## The first failure -/

/-- Why a computation fails, if it does. -/
def failure? : Except ε α → Option ε
  | .ok _ => none
  | .error e => some e

theorem failure?_eq_some_iff {x : Except ε α} {e : ε} : failure? x = some e ↔ x = .error e := by
  cases x <;> simp [failure?]

theorem failure?_eq_none_iff {x : Except ε α} : failure? x = none ↔ ∃ a, x = .ok a := by
  cases x <;> simp [failure?]

theorem failure?_mapError {ε' : Type} (g : ε → ε') (x : Except ε α) :
    failure? (x.mapError g) = (failure? x).map g := by
  cases x <;> rfl

theorem failure?_map (g : α → β) (x : Except ε α) : failure? (x.map g) = failure? x := by
  cases x <;> rfl

theorem failure?_bind_pure (g : α → β) (x : Except ε α) :
    failure? (x >>= fun a => pure (g a)) = failure? x := by
  cases x <;> rfl

/-- What can go wrong first goes before what can go wrong after it. -/
theorem failure?_bind {x : Except ε α} {g : α → Except ε β} {es es' : List ε}
    (hx : failure? x = es.head?) (hg : ∀ a, x = .ok a → failure? (g a) = es'.head?) :
    failure? (x >>= g) = (es ++ es').head? := by
  rw [List.head?_append, ← hx]
  cases x with
  | error e => rfl
  | ok a => exact hg a rfl

/-- **A computation that is made for each entry** fails as it does for the first entry for which it
fails. -/
theorem failure?_mapM (f : α → Except ε β) (xs : List α) :
    failure? (xs.mapM f) = (xs.filterMap fun x => failure? (f x)).head? := by
  induction xs with
  | nil => rfl
  | cons x xs ih =>
    cases hx : f x with
    | error e =>
      have hfail : failure? (f x) = some e := failure?_eq_some_iff.2 hx
      rw [mapM_cons_of_error hx, List.filterMap_cons, hfail]
      rfl
    | ok y =>
      have hfail : failure? (f x) = none := failure?_eq_none_iff.2 ⟨y, hx⟩
      rw [mapM_cons_of_ok hx, failure?_map, ih, List.filterMap_cons, hfail]

end InstallManifest.Result
