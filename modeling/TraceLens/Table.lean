/-!
# Insertion-ordered tables

A table lists its keys in the order in which they first came in. Writing a key again keeps its
place and replaces its value.

Main statements: `find?_insert_self`, `find?_insert_of_ne` and `keys_insert` describe a write
through the two views of a table, looking a key up and listing the keys, and `find?_put` through
the first entry that passes a test. `entries_ofList` and `find?_eq_some_iff` describe a table made
in one go from pairs with different keys.
-/

namespace TraceLens

/-- Keys with their values, in the order of the first write of each key. -/
structure Table (κ υ : Type) where
  entries : List (κ × υ) := []
  deriving Repr

namespace Table

variable {κ υ : Type} [DecidableEq κ]

/-- Write one key into a list of entries. -/
def put : List (κ × υ) → κ → υ → List (κ × υ)
  | [], k, v => [(k, v)]
  | (k', v') :: rest, k, v => if k' = k then (k, v) :: rest else (k', v') :: put rest k v

/-- The value of a key in a list of entries. -/
def look : List (κ × υ) → κ → Option υ
  | [], _ => none
  | (k', v) :: rest, k => if k' = k then some v else look rest k

def find? (t : Table κ υ) (k : κ) : Option υ := look t.entries k

def insert (t : Table κ υ) (k : κ) (v : υ) : Table κ υ := ⟨put t.entries k v⟩

def contains (t : Table κ υ) (k : κ) : Bool := (t.find? k).isSome

/-- Write a key only if it has no value yet. -/
def insertNew (t : Table κ υ) (k : κ) (v : υ) : Table κ υ :=
  if t.contains k then t else t.insert k v

/-- Write the pairs of a list one after the other. -/
def insertAll (t : Table κ υ) (pairs : List (κ × υ)) : Table κ υ :=
  pairs.foldl (fun t p => t.insert p.1 p.2) t

def ofList (pairs : List (κ × υ)) : Table κ υ := insertAll {} pairs

def keys (t : Table κ υ) : List κ := t.entries.map Prod.fst

def values (t : Table κ υ) : List υ := t.entries.map Prod.snd

def size (t : Table κ υ) : Nat := t.entries.length

theorem look_put_self (es : List (κ × υ)) (k : κ) (v : υ) : look (put es k v) k = some v := by
  induction es with
  | nil => simp [put, look]
  | cons e es ih =>
    obtain ⟨k', v'⟩ := e
    by_cases h : k' = k <;> simp [put, look, h, ih]

theorem look_put_of_ne (es : List (κ × υ)) {k j : κ} (v : υ) (h : j ≠ k) :
    look (put es k v) j = look es j := by
  induction es with
  | nil => simp [put, look, h.symm]
  | cons e es ih =>
    obtain ⟨k', v'⟩ := e
    by_cases hk : k' = k
    · subst hk; simp [put, look, h.symm]
    · by_cases hj : k' = j
      · subst hj; simp [put, look, hk]
      · simp [put, look, hk, hj, ih]

@[simp] theorem find?_insert_self (t : Table κ υ) (k : κ) (v : υ) :
    (t.insert k v).find? k = some v :=
  look_put_self t.entries k v

theorem find?_insert_of_ne (t : Table κ υ) {k j : κ} (v : υ) (h : j ≠ k) :
    (t.insert k v).find? j = t.find? j :=
  look_put_of_ne t.entries v h

/-- After a write, the first entry whose key passes a test is the one from before, with its new
value if it is the one that is written. If there was none, it is the written one, if that passes. -/
theorem find?_put (p : κ → Bool) (es : List (κ × υ)) (k : κ) (v : υ) :
    (put es k v).find? (fun e => p e.1) =
      match es.find? fun e => p e.1 with
      | some e => some (if e.1 = k then (k, v) else e)
      | none => if p k then some (k, v) else none := by
  induction es with
  | nil => cases hp : p k <;> simp [put, hp]
  | cons e es ih =>
    obtain ⟨k', v'⟩ := e
    by_cases hk : k' = k
    · subst hk
      cases hp : p k' with
      | true => simp [put, hp]
      | false =>
        -- the entry that is found has another key, as its key passes
        cases hes : es.find? fun e => p e.1 with
        | none => simp [put, hp, hes]
        | some e =>
          have passes := List.find?_some hes
          have other : e.1 ≠ k' := by
            rintro rfl
            simp [hp] at passes
          simp [put, hp, hes, other]
    · cases hp : p k' <;> simp [put, hk, hp, ih]

theorem look_eq_none_iff {es : List (κ × υ)} {k : κ} :
    look es k = none ↔ k ∉ es.map Prod.fst := by
  induction es with
  | nil => simp [look]
  | cons e es ih =>
    obtain ⟨k', v'⟩ := e
    by_cases h : k' = k
    · simp [look, h]
    · simp [look, h, ih, Ne.symm h]

theorem map_fst_put (es : List (κ × υ)) (k : κ) (v : υ) :
    (put es k v).map Prod.fst =
      if k ∈ es.map Prod.fst then es.map Prod.fst else es.map Prod.fst ++ [k] := by
  induction es with
  | nil => simp [put]
  | cons e es ih =>
    obtain ⟨k', v'⟩ := e
    by_cases h : k' = k
    · simp [put, h]
    · simp only [put, h, if_false, List.map_cons, ih, List.mem_cons, Ne.symm h, false_or]
      split <;> simp

theorem keys_insert (t : Table κ υ) (k : κ) (v : υ) :
    (t.insert k v).keys = if k ∈ t.keys then t.keys else t.keys ++ [k] :=
  map_fst_put t.entries k v

theorem mem_keys_insert {t : Table κ υ} {j k : κ} {v : υ} :
    j ∈ (t.insert k v).keys ↔ j ∈ t.keys ∨ j = k := by
  rw [keys_insert]
  split
  · rename_i hk
    exact ⟨.inl, fun h => h.elim id fun hj => hj ▸ hk⟩
  · simp

/-- The keys of a table made from pairs are the keys of the pairs. -/
theorem mem_keys_ofList {pairs : List (κ × υ)} {k : κ} :
    k ∈ (ofList pairs).keys ↔ k ∈ pairs.map Prod.fst := by
  have (t : Table κ υ) : k ∈ (t.insertAll pairs).keys ↔ k ∈ t.keys ∨ k ∈ pairs.map Prod.fst := by
    induction pairs generalizing t with
    | nil => simp [insertAll]
    | cons p pairs ih =>
      rw [List.map_cons, List.mem_cons, ← or_assoc, ← mem_keys_insert]
      exact ih _
  exact (this {}).trans (by simp [keys])

theorem nodup_keys_insert {t : Table κ υ} (h : t.keys.Nodup) (k : κ) (v : υ) :
    (t.insert k v).keys.Nodup := by
  rw [keys_insert]
  split
  · exact h
  · rename_i hk
    exact List.nodup_append.2 ⟨h, by simp, by rintro a ha b hb rfl; simp_all⟩

theorem nodup_keys_ofList (pairs : List (κ × υ)) : (ofList pairs).keys.Nodup := by
  have (t : Table κ υ) (h : t.keys.Nodup) : (t.insertAll pairs).keys.Nodup := by
    induction pairs generalizing t with
    | nil => exact h
    | cons p pairs ih => exact ih _ (nodup_keys_insert h p.1 p.2)
  exact this {} (by simp [keys])

theorem put_of_notMem {es : List (κ × υ)} {k : κ} (v : υ) (h : k ∉ es.map Prod.fst) :
    put es k v = es ++ [(k, v)] := by
  induction es with
  | nil => rfl
  | cons e es ih =>
    obtain ⟨k', v'⟩ := e
    simp only [List.map_cons, List.mem_cons, not_or] at h
    simp [put, Ne.symm h.1, ih h.2]

theorem entries_insertAll {t : Table κ υ} {pairs : List (κ × υ)}
    (h : (t.keys ++ pairs.map Prod.fst).Nodup) :
    (t.insertAll pairs).entries = t.entries ++ pairs := by
  induction pairs generalizing t with
  | nil => simp [insertAll]
  | cons p pairs ih =>
    obtain ⟨k, v⟩ := p
    have hk : k ∉ t.keys := by
      intro hmem
      exact (List.nodup_append.1 h).2.2 k hmem k List.mem_cons_self rfl
    have hput : (t.insert k v).entries = t.entries ++ [(k, v)] := put_of_notMem v hk
    have hkeys : (t.insert k v).keys = t.keys ++ [k] := by simp [keys_insert, hk]
    have rest : (t.insertAll ((k, v) :: pairs)).entries =
        ((t.insert k v).insertAll pairs).entries := rfl
    rw [rest, ih (by simpa [hkeys] using h), hput]
    simp

/-- A table made from pairs with different keys holds just these pairs, in their order. -/
theorem entries_ofList {pairs : List (κ × υ)} (h : (pairs.map Prod.fst).Nodup) :
    (ofList pairs).entries = pairs := by
  have := entries_insertAll (t := ({} : Table κ υ)) (by simpa [keys] using h)
  simpa [ofList] using this

theorem look_eq_some_iff {es : List (κ × υ)} (h : (es.map Prod.fst).Nodup) {k : κ} {v : υ} :
    look es k = some v ↔ (k, v) ∈ es := by
  induction es with
  | nil => simp [look]
  | cons e es ih =>
    obtain ⟨k', v'⟩ := e
    obtain ⟨hk, hes⟩ := List.nodup_cons.1 h
    by_cases heq : k' = k
    · subst heq
      have none : (k', v) ∉ es := fun hmem => hk (List.mem_map.2 ⟨_, hmem, rfl⟩)
      simp [look, none, eq_comm]
    · simp [look, heq, ih hes, Ne.symm heq]

theorem find?_eq_some_iff {t : Table κ υ} (h : t.keys.Nodup) {k : κ} {v : υ} :
    t.find? k = some v ↔ (k, v) ∈ t.entries :=
  look_eq_some_iff h

end Table

end TraceLens
