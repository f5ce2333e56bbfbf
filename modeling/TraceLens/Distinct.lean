/-!
# Lists without repetition

`distinct` keeps the last occurrence of each item of a list.

Main statements: `mem_distinct` and `nodup_distinct`.
-/

namespace TraceLens

variable {α : Type} [DecidableEq α]

/-- A list without the items that occur again later in it. -/
def distinct : List α → List α
  | [] => []
  | x :: rest => if x ∈ rest then distinct rest else x :: distinct rest

@[simp] theorem mem_distinct {x : α} {xs : List α} : x ∈ distinct xs ↔ x ∈ xs := by
  induction xs with
  | nil => simp [distinct]
  | cons y rest ih =>
    by_cases h : y ∈ rest <;> simp [distinct, h, ih]
    rintro rfl; exact h

theorem nodup_distinct (xs : List α) : (distinct xs).Nodup := by
  induction xs with
  | nil => simp [distinct]
  | cons y rest ih => by_cases h : y ∈ rest <;> simp [distinct, h, ih]

end TraceLens
