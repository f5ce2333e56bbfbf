import Mathlib.Data.Nat.SuccPred
import Mathlib.Order.SuccPred.Archimedean
import TraceLens.Proofs.Bytecode.Offsets
import TraceLens.Proofs.Text.PartialUtf8

/-!
# Byte columns

A column counts the UTF-8 bytes of a line before a place, and `offsetOf` turns it into the number of
characters of the text before that place.

Main statement: `offsetOf_columns` says that columns of places lead back to those places, and that
any other column leads to the nearest place before it.
-/

namespace TraceLens.Bytecode

/-- The number of bytes of the text between two offsets. -/
def bytesBetween (text : String) (p q : Nat) : Nat :=
  (Utf8.encode (.ofList ((text.toList.take q).drop p))).length

/-- Line `n`, counted from zero, is the last one that starts at an offset or before it. -/
def OnLine (lines : List (List Char)) (n p : Nat) : Prop :=
  IsGreatest {m | m < lines.length ∧ Pieces.startOf lines m ≤ p} n

/-- How the lines and byte columns of a text stand for its offsets. Lines are numbered from one. -/
structure ColumnsOf (text : String) (lines : List (List Char)) : Prop where
  /-- The lines are those of the text. -/
  cut : ∀ others, CutsLines text.toList others ↔ others = lines
  /-- Each offset is on a line. -/
  covered : ∀ p ≤ text.length, ∃ n, OnLine lines n p
  /-- The bytes from the start of a line to an offset on it are the column of that offset. -/
  exact : ∀ n p, p ≤ text.length → OnLine lines n p →
    offsetOf (.ofText text) (some ((n + 1 : Nat) : Int))
      (some (bytesBetween text (Pieces.startOf lines n) p)) = .ok (some p)
  /-- A column is the greatest offset on its line or at the end of it that takes no more bytes, and
  the same offset is found when the bytes before the column are read. -/
  greatest : ∀ n line, lines[n]? = some line → ∃ offset : Nat → Nat, Monotone offset ∧ ∀ c : Nat,
    offsetOf (.ofText text) (some ((n + 1 : Nat) : Int)) (some c) = .ok (some (offset c)) ∧
      IsGreatest
        {p | Pieces.startOf lines n ≤ p ∧ p ≤ Pieces.startOf lines n + line.length ∧
          bytesBetween text (Pieces.startOf lines n) p ≤ c} (offset c) ∧
      offset c = Pieces.startOf lines n +
        (Utf8.readable ((Utf8.encode (.ofList line)).take c)).length
  /-- Other numbers of lines have no offset. -/
  missing : ∀ number : Option Int, (∀ n ∈ number, n = 0 ∨ (lines.length : Int) < n) →
    ∀ column, offsetOf (.ofText text) number column = .ok none

section Lines

variable {text : String} {line : List Char} {lines : List (List Char)} {k n p : Nat}

/-! ## Places on a line -/

theorem length_encode_ofList (cs : List Char) :
    (Utf8.encode (.ofList cs)).length = utf8Length cs := by
  rw [utf8Length_eq, Utf8.encode, String.toList_ofList]

/-- Between the start of a line and a place on it are the first characters of the line. -/
theorem bytesBetween_start (h : (physicalLines text.toList)[n]? = some line)
    (hk : k ≤ line.length) :
    bytesBetween text (Pieces.startOf (physicalLines text.toList) n)
      (Pieces.startOf (physicalLines text.toList) n + k) = utf8Length (line.take k) := by
  have onward := Pieces.take_drop_flatten h hk
  rw [flatten_physicalLines] at onward
  rw [bytesBetween, length_encode_ofList, List.drop_take, Nat.add_sub_cancel_left, onward]

theorem exists_onLine (hlines : lines ≠ []) (p : Nat) : ∃ n, OnLine lines n p := by
  have first : (0 : Nat) ∈ {m | m < lines.length ∧ Pieces.startOf lines m ≤ p} :=
    ⟨List.length_pos_iff.2 hlines, by simp⟩
  have bounded : BddAbove {m | m < lines.length ∧ Pieces.startOf lines m ≤ p} :=
    ⟨lines.length, fun m hm => hm.1.le⟩
  exact bounded.exists_isGreatest_of_nonempty ⟨0, first⟩

/-- An offset that is on a line is among its characters or at its end. -/
theorem OnLine.exists_add (h : OnLine lines n p) (hp : p ≤ lines.flatten.length) :
    ∃ line k, lines[n]? = some line ∧ k ≤ line.length ∧ p = Pieces.startOf lines n + k := by
  obtain ⟨⟨hn, hle⟩, last⟩ := h
  have hline := List.getElem?_eq_getElem hn
  refine ⟨lines[n], p - Pieces.startOf lines n, hline, ?_, by omega⟩
  have next := Pieces.startOf_succ hline
  by_contra beyond
  by_cases more : n + 1 < lines.length
  · have := last ⟨more, by omega⟩
    omega
  · have : lines.take (n + 1) = lines := List.take_of_length_le (by omega)
    rw [Pieces.startOf, this] at next
    omega

/-! ## Columns of a line -/

theorem offset_natCast (start : Nat) (line : List Char) (c : Nat) :
    TextLine.offset ⟨start, line⟩ (some c) = start + charsWithin line c := by
  rw [TextLine.offset, Signed.cut_natCast, charsWithin_min]

theorem isGreatest_charsWithin (h : (physicalLines text.toList)[n]? = some line) (c : Nat) :
    IsGreatest
      {p | Pieces.startOf (physicalLines text.toList) n ≤ p ∧
        p ≤ Pieces.startOf (physicalLines text.toList) n + line.length ∧
        bytesBetween text (Pieces.startOf (physicalLines text.toList) n) p ≤ c}
      (Pieces.startOf (physicalLines text.toList) n + charsWithin line c) := by
  have inside := charsWithin_le line c
  constructor
  · refine ⟨Nat.le_add_right _ _, Nat.add_le_add_left inside _, ?_⟩
    rw [bytesBetween_start h inside]
    exact utf8Length_take_charsWithin_le line c
  · rintro p ⟨above, below, fits⟩
    obtain ⟨k, rfl⟩ := Nat.exists_eq_add_of_le above
    have hk : k ≤ line.length := Nat.le_of_add_le_add_left below
    rw [bytesBetween_start h hk] at fits
    exact Nat.add_le_add_left ((le_charsWithin_iff hk).2 fits) _

theorem length_readable_take (line : List Char) (c : Nat) :
    (Utf8.readable ((Utf8.encode (.ofList line)).take c)).length = charsWithin line c := by
  rw [Utf8.encode, String.toList_ofList, Utf8.readable_take]
  exact List.length_take_of_le (charsWithin_le line c)

end Lines

/-- Lines and columns lead to the offsets they stand for. -/
theorem offsetOf_columns (text : String) : ColumnsOf text (physicalLines text.toList) where
  cut others := cutsLines_iff.trans eq_comm
  covered p _ := exists_onLine (physicalLines_ne_nil _) p
  exact n p hp h := by
    rw [← String.length_toList, ← flatten_physicalLines text.toList] at hp
    obtain ⟨line, k, hline, hk, rfl⟩ := h.exists_add hp
    rw [offsetOf_of_getElem? hline, bytesBetween_start hline hk, offset_natCast,
      charsWithin_utf8Length_take hk]
  greatest n line hline := by
    refine ⟨fun c => Pieces.startOf (physicalLines text.toList) n + charsWithin line c, ?_, ?_⟩
    · intro c d hcd
      exact Nat.add_le_add_left (charsWithin_mono line hcd) _
    · intro c
      refine ⟨?_, isGreatest_charsWithin hline c, ?_⟩
      · rw [offsetOf_of_getElem? hline, offset_natCast]
      · rw [length_readable_take]
  missing number h column := offsetOf_of_missing h column

end TraceLens.Bytecode
