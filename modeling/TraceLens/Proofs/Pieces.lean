import Mathlib.Data.List.Basic

/-!
# Lists cut into pieces

A list that is cut into pieces is read either by its own indices or by the number of a piece and an
index in it. Each piece starts where the ones before it end.

Main statements: `getElem?_flatten` goes from a place in a piece to an index, and `exists_piece`
from an index to a place.
-/

namespace TraceLens.Pieces

variable {α : Type} {pieces : List (List α)} {piece : List α} {n : Nat}

/-- The index at which piece `n` starts; the pieces end where the one after the last would start. -/
def startOf (pieces : List (List α)) (n : Nat) : Nat := (pieces.take n).flatten.length

@[simp] theorem startOf_zero (pieces : List (List α)) : startOf pieces 0 = 0 := by
  simp [startOf]

@[simp] theorem startOf_cons_succ (piece : List α) (pieces : List (List α)) (n : Nat) :
    startOf (piece :: pieces) (n + 1) = piece.length + startOf pieces n := by
  simp [startOf]

theorem startOf_succ (h : pieces[n]? = some piece) :
    startOf pieces (n + 1) = startOf pieces n + piece.length := by
  simp [startOf, List.take_add_one, h]

theorem startOf_mono (pieces : List (List α)) {m n : Nat} (h : m ≤ n) :
    startOf pieces m ≤ startOf pieces n := by
  have front : pieces.take m <+: pieces.take n := List.take_prefix_take_left h
  obtain ⟨rest, heq⟩ := front
  simp [startOf, ← heq]

theorem startOf_le (pieces : List (List α)) (n : Nat) :
    startOf pieces n ≤ pieces.flatten.length := by
  calc startOf pieces n
      ≤ startOf pieces (max n pieces.length) := startOf_mono pieces (Nat.le_max_left _ _)
    _ = pieces.flatten.length := by
        rw [startOf, List.take_of_length_le (Nat.le_max_right _ _)]

theorem startOf_add_length_le (h : pieces[n]? = some piece) :
    startOf pieces n + piece.length ≤ pieces.flatten.length :=
  startOf_succ h ▸ startOf_le pieces (n + 1)

/-- A piece stands in the whole list between the pieces before it and those after it. -/
theorem flatten_eq_append (h : pieces[n]? = some piece) :
    pieces.flatten = (pieces.take n).flatten ++ (piece ++ (pieces.drop (n + 1)).flatten) := by
  obtain ⟨hn, rfl⟩ := List.getElem?_eq_some_iff.1 h
  conv_lhs => rw [← List.take_append_drop n pieces]
  rw [List.flatten_append, List.drop_eq_getElem_cons hn, List.flatten_cons]

theorem getElem?_flatten (h : pieces[n]? = some piece) {k : Nat} (hk : k < piece.length) :
    pieces.flatten[startOf pieces n + k]? = piece[k]? := by
  rw [flatten_eq_append h, startOf, List.getElem?_append_right (by omega), Nat.add_sub_cancel_left,
    List.getElem?_append_left hk]

/-- From the start of a piece the whole list goes on with that piece. -/
theorem take_drop_flatten (h : pieces[n]? = some piece) {k : Nat} (hk : k ≤ piece.length) :
    (pieces.flatten.drop (startOf pieces n)).take k = piece.take k := by
  rw [flatten_eq_append h, startOf, List.drop_left, List.take_append_of_le_length hk]

/-- Before a place in a piece are the earlier pieces and the first items of that piece. -/
theorem take_flatten (h : pieces[n]? = some piece) {k : Nat} (hk : k ≤ piece.length) :
    pieces.flatten.take (startOf pieces n + k) = (pieces.take n).flatten ++ piece.take k := by
  rw [flatten_eq_append h, startOf, List.take_length_add_append,
    List.take_append_of_le_length hk]

/-- Every index of the whole list lies in some piece. -/
theorem exists_piece {i : Nat} (hi : i < pieces.flatten.length) :
    ∃ n piece k, pieces[n]? = some piece ∧ k < piece.length ∧ i = startOf pieces n + k := by
  induction pieces generalizing i with
  | nil => simp at hi
  | cons first rest ih =>
    by_cases inFirst : i < first.length
    · exact ⟨0, first, i, rfl, inFirst, by simp⟩
    · have inRest : i - first.length < rest.flatten.length := by
        rw [List.flatten_cons, List.length_append] at hi
        omega
      obtain ⟨n, piece, k, hn, hk, heq⟩ := ih inRest
      exact ⟨n + 1, piece, k, by simpa using hn, hk, by rw [startOf_cons_succ]; omega⟩

end TraceLens.Pieces
