/-!
# Signed positions

A position in a sequence may be counted from its start or, when it is negative, from its end.
Reading at a position outside the sequence fails; a cut outside it moves to the nearer end.

Main statement: `slice_natCast` says that a slice between natural bounds is the usual stretch of the
list.
-/

namespace TraceLens.Signed

variable {α : Type}

/-- The number of items before the cut that a signed bound names. -/
def cut (n : Nat) (i : Int) : Nat :=
  if i < 0 then (i + n).toNat else min i.toNat n

/-- The item at a signed position, `none` outside the sequence. -/
def get? (xs : List α) (i : Int) : Option α :=
  if 0 ≤ i then xs[i.toNat]?
  else if 0 ≤ i + xs.length then xs[(i + xs.length).toNat]?
  else none

/-- The items between two signed cuts; none when the cuts are out of order. -/
def slice (xs : List α) (lo hi : Int) : List α :=
  (xs.take (cut xs.length hi)).drop (cut xs.length lo)

@[simp] theorem cut_natCast (n k : Nat) : cut n (k : Int) = min k n := by
  unfold cut; split <;> omega

@[simp] theorem get?_natCast (xs : List α) (k : Nat) : get? xs (k : Int) = xs[k]? := by
  simp [get?]

theorem mem_of_get? {xs : List α} {i : Int} {x : α} (h : get? xs i = some x) : x ∈ xs := by
  unfold get? at h
  split at h
  · exact List.mem_of_getElem? h
  · split at h
    · exact List.mem_of_getElem? h
    · cases h

theorem slice_natCast (xs : List α) (lo hi : Nat) :
    slice xs (lo : Int) (hi : Int) = (xs.take hi).drop lo := by
  unfold slice
  rw [cut_natCast, cut_natCast]
  rcases Nat.le_total hi xs.length with h | h
  · rw [Nat.min_eq_left h]
    rcases Nat.le_total lo xs.length with h' | h'
    · rw [Nat.min_eq_left h']
    · have hl : (xs.take hi).length = hi := List.length_take_of_le h
      rw [Nat.min_eq_right h', List.drop_eq_nil_of_le (by omega),
        List.drop_eq_nil_of_le (by omega)]
  · rw [Nat.min_eq_right h, List.take_of_length_le (Nat.le_refl _), List.take_of_length_le h]
    rcases Nat.le_total lo xs.length with h' | h'
    · rw [Nat.min_eq_left h']
    · rw [Nat.min_eq_right h', List.drop_eq_nil_of_le (Nat.le_refl _),
        List.drop_eq_nil_of_le h']

end TraceLens.Signed
