import Mathlib.Data.List.Forall2

/-!
# Computations that can fail

When a sequence of steps succeeds: each step has to. Over a list the results stand in the order of
the items they come from.

Main statements: `bind_eq_ok_iff` and `mapM_eq_ok_iff` say when a step or a traversal succeeds,
`mapM_of_findSome?` how it fails, and `exists_getElem?_right` finds the result of one item of it.
-/

namespace TraceLens

variable {ε α β : Type}

theorem bind_eq_ok_iff {x : Except ε α} {f : α → Except ε β} {b : β} :
    x >>= f = .ok b ↔ ∃ a, x = .ok a ∧ f a = .ok b := by
  cases x <;> simp [bind, Except.bind]

theorem pure_eq_ok_iff {a b : α} : (pure a : Except ε α) = .ok b ↔ a = b := by
  simp [pure, Except.pure]

theorem mapM_eq_ok_iff {f : α → Except ε β} {xs : List α} {ys : List β} :
    xs.mapM f = .ok ys ↔ List.Forall₂ (fun x y => f x = .ok y) xs ys := by
  induction xs generalizing ys with
  | nil => rw [List.mapM_nil, pure_eq_ok_iff, List.forall₂_nil_left_iff, eq_comm]
  | cons x xs ih =>
    rw [List.mapM_cons, List.forall₂_cons_left_iff, bind_eq_ok_iff]
    constructor
    · rintro ⟨y, hy, hrest⟩
      obtain ⟨rest, hrest, hpure⟩ := bind_eq_ok_iff.1 hrest
      exact ⟨y, rest, hy, ih.1 hrest, (pure_eq_ok_iff.1 hpure).symm⟩
    · rintro ⟨y, rest, hy, hrest, rfl⟩
      exact ⟨y, hy, bind_eq_ok_iff.2 ⟨rest, ih.2 hrest, rfl⟩⟩

/-- A step that succeeds, and after it one that does, succeed together. -/
theorem exists_bind_eq_ok {x : Except ε α} {f : α → Except ε β} (hx : ∃ a, x = .ok a)
    (hf : ∀ a, x = .ok a → ∃ b, f a = .ok b) : ∃ b, x >>= f = .ok b := by
  obtain ⟨a, ha⟩ := hx
  obtain ⟨b, hb⟩ := hf a ha
  exact ⟨b, bind_eq_ok_iff.2 ⟨a, ha, hb⟩⟩

/-- A traversal succeeds when it does at every item. -/
theorem exists_mapM_eq_ok {f : α → Except ε β} {xs : List α} (h : ∀ x ∈ xs, ∃ y, f x = .ok y) :
    ∃ ys, xs.mapM f = .ok ys := by
  simp only [mapM_eq_ok_iff]
  induction xs with
  | nil => exact ⟨[], .nil⟩
  | cons x xs ih =>
    obtain ⟨y, hy⟩ := h x List.mem_cons_self
    obtain ⟨ys, hys⟩ := ih fun z hz => h z (List.mem_cons_of_mem _ hz)
    exact ⟨y :: ys, .cons hy hys⟩

/-! ## Failures -/

/-- What a computation fails with. -/
def failure? : Except ε α → Option ε
  | .ok _ => none
  | .error e => some e

theorem failure?_eq_none_iff {x : Except ε α} : failure? x = none ↔ ∃ a, x = .ok a := by
  cases x <;> simp [failure?]

theorem failure?_eq_some_iff {x : Except ε α} {e : ε} : failure? x = some e ↔ x = .error e := by
  cases x <;> simp [failure?]

/-- A traversal fails as its first item that fails. -/
theorem mapM_of_findSome? {f : α → Except ε β} {xs : List α} {e : ε}
    (h : xs.findSome? (fun x => failure? (f x)) = some e) : xs.mapM f = .error e := by
  induction xs with
  | nil => cases h
  | cons x xs ih =>
    rw [List.findSome?_cons] at h
    cases hx : f x with
    | error e' =>
      rw [hx] at h
      obtain rfl : e' = e := Option.some_inj.1 h
      rw [List.mapM_cons, hx]
      rfl
    | ok y =>
      rw [hx] at h
      rw [List.mapM_cons, hx, ih h]
      rfl

theorem exists_mapM_eq_error {f : α → Except ε β} {xs : List α}
    (h : ∃ x ∈ xs, ∃ e, f x = .error e) :
    ∃ x ∈ xs, ∃ e, f x = .error e ∧ xs.mapM f = .error e := by
  cases hfind : xs.findSome? (fun x => failure? (f x)) with
  | none =>
    obtain ⟨x, hx, e, he⟩ := h
    have := List.findSome?_eq_none_iff.1 hfind x hx
    rw [failure?_eq_some_iff.2 he] at this
    cases this
  | some e =>
    obtain ⟨x, hx, he⟩ := List.exists_of_findSome?_eq_some hfind
    exact ⟨x, hx, e, failure?_eq_some_iff.1 he, mapM_of_findSome? hfind⟩

/-! ## Related lists -/

section Related

variable {R : α → β → Prop} {xs : List α} {ys : List β} {k : Nat}

theorem exists_getElem?_right (h : List.Forall₂ R xs ys) {x : α} (hx : xs[k]? = some x) :
    ∃ y, ys[k]? = some y ∧ R x y := by
  obtain ⟨hk, rfl⟩ := List.getElem?_eq_some_iff.1 hx
  have hk' : k < ys.length := h.length_eq ▸ hk
  exact ⟨ys[k], List.getElem?_eq_getElem hk', h.get hk hk'⟩

theorem exists_getElem?_left (h : List.Forall₂ R xs ys) {y : β} (hy : ys[k]? = some y) :
    ∃ x, xs[k]? = some x ∧ R x y :=
  exists_getElem?_right h.flip hy

end Related

end TraceLens
