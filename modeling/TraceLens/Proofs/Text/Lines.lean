import Mathlib.Data.List.Basic
import TraceLens.Proofs.Pieces
import TraceLens.Text.Lines

/-!
# Physical lines

A text is cut after each LF, each CR LF and each CR that no LF follows. `CutsLines` says this
without a scan of the text, and a line table gives each line the offset at which its piece starts.

Main statements: `cutsLines_iff` says that the lines of a text are this cut and no other, and
`LineTable.getElem?_place` where they start.
-/

namespace TraceLens

/-! ## The cut -/

/-- Characters without any line end. -/
def EndsNoLine (cs : List Char) : Prop := '\n' ∉ cs ∧ '\r' ∉ cs

/-- What ends a line in front of some text: a CR in front of an LF is not yet the end. -/
inductive LineEnd : List Char → List Char → Prop
  | lineFeed {rest : List Char} : LineEnd ['\n'] rest
  | both {rest : List Char} : LineEnd ['\r', '\n'] rest
  | carriageReturn {rest : List Char} (h : rest.head? ≠ some '\n') : LineEnd ['\r'] rest

/-- The lines of a text: each but the last one goes up to its line end and includes it, and the last
one has none. -/
inductive CutsLines : List Char → List (List Char) → Prop
  | last {line : List Char} (plain : EndsNoLine line) : CutsLines line [line]
  | line {line ending rest : List Char} {lines : List (List Char)} (plain : EndsNoLine line)
      (ends : LineEnd ending rest) (more : CutsLines rest lines) :
      CutsLines (line ++ ending ++ rest) ((line ++ ending) :: lines)

section Cut

variable {c : Char} {cs line ending rest : List Char} {lines : List (List Char)}

theorem EndsNoLine.cons (hc : ¬(c = '\n' ∨ c = '\r')) (h : EndsNoLine cs) :
    EndsNoLine (c :: cs) := by
  simp only [EndsNoLine, List.mem_cons, not_or] at h hc ⊢
  exact ⟨⟨Ne.symm hc.1, h.1⟩, ⟨Ne.symm hc.2, h.2⟩⟩

theorem EndsNoLine.of_cons (h : EndsNoLine (c :: cs)) :
    ¬(c = '\n' ∨ c = '\r') ∧ EndsNoLine cs := by
  simp only [EndsNoLine, List.mem_cons, not_or] at h ⊢
  exact ⟨⟨Ne.symm h.1.1, Ne.symm h.2.1⟩, h.1.2, h.2.2⟩

theorem physicalLines_cons (hc : ¬(c = '\n' ∨ c = '\r'))
    (h : physicalLines cs = line :: lines) : physicalLines (c :: cs) = (c :: line) :: lines := by
  rw [physicalLines.eq_3 _ _ (by rintro rest rfl; simp at hc), if_neg hc, h]

theorem LineEnd.physicalLines_append (ends : LineEnd ending rest) :
    physicalLines (ending ++ rest) = ending :: physicalLines rest := by
  cases ends with
  | lineFeed => simp [physicalLines]
  | both => simp [physicalLines]
  | carriageReturn h =>
    cases rest with
    | nil => rfl
    | cons c cs =>
      have hc : c ≠ '\n' := by simpa using h
      simp [physicalLines, hc]

theorem CutsLines.physicalLines_eq (h : CutsLines cs lines) : physicalLines cs = lines := by
  induction h with
  | @last line plain =>
    induction line with
    | nil => rfl
    | cons c cs ih => exact physicalLines_cons plain.of_cons.1 (ih plain.of_cons.2)
  | @line line ending rest lines plain ends _ ih =>
    induction line with
    | nil => rw [List.nil_append, ends.physicalLines_append, ih]
    | cons c cs ih' => exact physicalLines_cons plain.of_cons.1 (ih' plain.of_cons.2)

theorem cutsLines_physicalLines (cs : List Char) : CutsLines cs (physicalLines cs) := by
  have nothing : EndsNoLine [] := ⟨List.not_mem_nil, List.not_mem_nil⟩
  fun_induction physicalLines cs with
  | case1 => exact .last nothing
  | case2 rest ih => exact .line nothing .both ih
  | case3 c rest notBoth hc ih =>
    have ends : LineEnd [c] rest := by
      rcases hc with rfl | rfl
      · exact .lineFeed
      · refine .carriageReturn fun hrest => ?_
        obtain ⟨rest', rfl⟩ := List.head?_eq_some_iff.1 hrest
        exact notBoth rest' rfl rfl
    exact .line nothing ends ih
  | case4 c rest notBoth hc none ih => exact absurd none (physicalLines_ne_nil rest)
  | case5 c rest notBoth hc line more heq ih =>
    rw [heq] at ih
    cases ih with
    | last plain => exact .last (plain.cons hc)
    | line plain ends more => exact .line (plain.cons hc) ends more

/-- The lines of a text are the cut after its line ends, and there is no other. -/
theorem cutsLines_iff : CutsLines cs lines ↔ physicalLines cs = lines := by
  constructor
  · exact CutsLines.physicalLines_eq
  · rintro rfl
    exact cutsLines_physicalLines cs

end Cut

/-! ## The table -/

namespace LineTable

theorem getElem?_place (start : Nat) (lines : List (List Char)) (k : Nat) :
    (place start lines)[k]? =
      lines[k]?.map fun line => ⟨start + Pieces.startOf lines k, line⟩ := by
  induction lines generalizing start k with
  | nil => rfl
  | cons line rest ih =>
    cases k with
    | zero => simp [place]
    | succ k => simp [place, ih, Nat.add_assoc]

@[simp] theorem length_place (start : Nat) (lines : List (List Char)) :
    (place start lines).length = lines.length := by
  induction lines generalizing start with
  | nil => rfl
  | cons line rest ih => simp [place, ih]

theorem length_ofText (text : String) :
    (ofText text).length = (physicalLines text.toList).length :=
  length_place 0 _

theorem getElem?_ofText (text : String) (k : Nat) :
    (ofText text)[k]? = (physicalLines text.toList)[k]?.map fun line =>
      ⟨Pieces.startOf (physicalLines text.toList) k, line⟩ := by
  simp [ofText, getElem?_place]

end LineTable

theorem TextLine.start_le_offset (l : TextLine) (column : Option Int) :
    l.start ≤ l.offset column := by
  cases column <;> simp [offset]

end TraceLens
