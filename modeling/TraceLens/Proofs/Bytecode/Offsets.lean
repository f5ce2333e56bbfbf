import TraceLens.Bytecode.CodeGraph
import TraceLens.Proofs.Text.Lines

/-!
# Offsets of lines and columns

A line and a column name an offset of a text when the text has that line.

Main statements: `offsetOf_of_getElem?` and `offsetOf_of_missing` say what a line number leads to,
and `exists_line_of_offsetOf` goes back from an offset to its line.
-/

namespace TraceLens.Bytecode

variable {text : String} {line : List Char} {k : Nat} {number column : Option Int}

theorem offsetOf_of_getElem? (h : (physicalLines text.toList)[k]? = some line)
    (column : Option Int) :
    offsetOf (.ofText text) (some ((k + 1 : Nat) : Int)) column =
      .ok (some (TextLine.offset ⟨Pieces.startOf (physicalLines text.toList) k, line⟩ column)) := by
  have inside : k < (LineTable.ofText text).length := by
    rw [LineTable.length_ofText]
    exact (List.getElem?_eq_some_iff.1 h).1
  have number : (LineTable.ofText text).number? (some ((k + 1 : Nat) : Int)) =
      some ((k + 1 : Nat) : Int) := by
    rw [LineTable.number?, if_neg (by omega)]
  have found : (LineTable.ofText text).line? (k + 1 : Nat) =
      some ⟨Pieces.startOf (physicalLines text.toList) k, line⟩ := by
    rw [LineTable.line?, Int.natCast_add, Int.natCast_one, Int.add_sub_cancel, Signed.get?_natCast,
      LineTable.getElem?_ofText, h, Option.map_some]
  simp only [offsetOf, number, found]

/-- A number that names no line of the text leads to no offset. -/
theorem offsetOf_of_missing
    (h : ∀ n ∈ number, n = 0 ∨ ((physicalLines text.toList).length : Int) < n)
    (column : Option Int) : offsetOf (.ofText text) number column = .ok none := by
  cases number with
  | none => rfl
  | some n =>
    have missing : (LineTable.ofText text).number? (some n) = none := by
      rw [LineTable.number?, if_pos]
      rw [LineTable.length_ofText]
      exact h n rfl
    simp only [offsetOf, missing]

/-- An offset that a line and a column lead to is read off that line. -/
theorem exists_line_of_offsetOf {p : Nat} (nonneg : ∀ n ∈ number, 0 ≤ n)
    (h : offsetOf (.ofText text) number column = .ok (some p)) :
    ∃ k line, number = some ((k + 1 : Nat) : Int) ∧ (physicalLines text.toList)[k]? = some line ∧
      p = TextLine.offset ⟨Pieces.startOf (physicalLines text.toList) k, line⟩ column := by
  by_cases missing : ∀ n ∈ number, n = 0 ∨ ((physicalLines text.toList).length : Int) < n
  · rw [offsetOf_of_missing missing] at h
    cases h
  · push Not at missing
    obtain ⟨n, rfl, hn, hle⟩ := missing
    have := nonneg n rfl
    obtain ⟨k, rfl⟩ : ∃ k : Nat, n = (k + 1 : Nat) := ⟨(n - 1).toNat, by omega⟩
    have inside := List.getElem?_eq_getElem (l := physicalLines text.toList) (i := k) (by omega)
    rw [offsetOf_of_getElem? inside] at h
    exact ⟨k, _, rfl, inside, (Option.some_inj.1 (Except.ok.inj h)).symm⟩

end TraceLens.Bytecode
