import TraceLens.Proofs.Bytecode.Offsets
import TraceLens.Proofs.Bytecode.Sources

/-!
# The extent of a code

The source of a whole code reaches over the sources of all its instructions, as far as the code does
not start behind one of them. The source of a module is all of the text.

Main statements: `Code.start_le_of_spanOf` and `Code.contains_wholeSpan`, and `codeGraph_within`
for the graph of a code.
-/

namespace TraceLens

/-- Region `s` is a part of region `r`. -/
structure Region.Contains (r s : Region) : Prop where
  file_eq : s.file = r.file
  lo_le : r.lo ≤ s.lo
  le_hi : s.hi ≤ r.hi

namespace Bytecode

/-- No instruction belongs to a line of the text before the one where the code starts. -/
def Code.StartsFirst (code : Code) (text : String) : Prop :=
  ∀ i ∈ code.instructions, ∀ p ∈ i.positions, ∀ n ∈ p.line, 1 ≤ n →
    n ≤ (LineTable.ofText text).length → ∀ first ∈ code.firstLine, first ≤ n

variable {code : Code} {text file : String} {o : Origin}

/-- A code starts at the start of its first line, or of the text if there is no such line. -/
theorem Code.start_of_origin (ho : code.origin text file = .ok o) :
    ∃ start?, offsetOf (.ofText text) code.firstLine none = .ok start? ∧
      o.start = start?.getD 0 := by
  obtain ⟨start?, hstart, ho⟩ := bind_eq_ok_iff.1 ho
  obtain rfl := pure_eq_ok_iff.1 ho
  exact ⟨start?, hstart, rfl⟩

/-- A line that does not come before the start of a code has no offset before it. -/
theorem Code.start_le_of_offsetOf (h : code.Regular) (ho : code.origin text file = .ok o)
    {number column : Option Int} (nonneg : ∀ n ∈ number, 0 ≤ n)
    (after : ∀ n ∈ number, 1 ≤ n → n ≤ (LineTable.ofText text).length →
      ∀ first ∈ code.firstLine, first ≤ n)
    {p : Nat} (hp : offsetOf (.ofText text) number column = .ok (some p)) : o.start ≤ p := by
  obtain ⟨k, line, rfl, hline, rfl⟩ := exists_line_of_offsetOf nonneg hp
  obtain ⟨start?, hstart, heq⟩ := start_of_origin ho
  rw [heq]
  cases start? with
  | none => exact Nat.zero_le _
  | some start =>
    obtain ⟨first, firstChars, hfirst, -, rfl⟩ := exists_line_of_offsetOf h.firstLine hstart
    have inside : k < (LineTable.ofText text).length := by
      rw [LineTable.length_ofText]
      exact (List.getElem?_eq_some_iff.1 hline).1
    have notAfter := after _ rfl (by omega) (by omega) _ hfirst
    calc Pieces.startOf (physicalLines text.toList) first
        ≤ Pieces.startOf (physicalLines text.toList) k := Pieces.startOf_mono _ (by omega)
      _ ≤ _ := TextLine.start_le_offset ⟨_, line⟩ column

/-- The source of an instruction does not begin before its code does. -/
theorem Code.start_le_of_spanOf (h : code.Regular) (ho : code.origin text file = .ok o)
    (first : code.StartsFirst text) {i : Instruction} (hi : i ∈ code.instructions) {s : Span}
    (hs : o.spanOf i = .ok s) : (o.start : Int) ≤ s.lo := by
  have lines_eq := (of_origin h ho).1.lines_eq
  unfold Origin.spanOf at hs
  split at hs
  · obtain rfl := Except.ok.inj hs
    exact le_rfl
  · rename_i p hp
    obtain ⟨lo?, hlo, hs⟩ := bind_eq_ok_iff.1 hs
    rw [lines_eq] at hlo
    split at hs
    · obtain rfl := pure_eq_ok_iff.1 hs
      exact le_rfl
    · rename_i lo
      obtain ⟨stop?, -, hs⟩ := bind_eq_ok_iff.1 hs
      obtain rfl := pure_eq_ok_iff.1 hs
      have := start_le_of_offsetOf h ho (h.lines i hi p hp).1 (first i hi p hp) hlo
      exact Int.ofNat_le.2 this

/-- The source of a whole code contains each source of its blocks that does not begin before the
code does. -/
theorem Code.contains_wholeSpan {length : Nat} {blocks : List Block} {s : Span}
    (hs : s ∈ Block.sources blocks) (within : s.Within o.file length)
    (start_le : (o.start : Int) ≤ s.lo) :
    (code.wholeSpan o length blocks).Contains s.toRegion := by
  by_cases isModule : code.name = "<module>"
  · rw [wholeSpan, if_pos isModule]
    exact ⟨within.file_eq, within.lo_nonneg, within.hi_le⟩
  · rw [wholeSpan_of_function isModule, List.foldl_max]
    refine ⟨within.file_eq, start_le, ?_⟩
    have stop : s.hi ∈ (Block.sources blocks).map (·.hi) := List.mem_map_of_mem hs
    cases hmax : ((Block.sources blocks).map (·.hi)).max? with
    | none =>
      rw [List.max?_eq_none_iff.1 hmax] at stop
      cases stop
    | some m => exact ((List.max?_eq_some_iff.1 hmax).2 _ stop).trans (le_max_right _ _)

/-- The sources of a code and of its statements and terminators lie in the text. The source of a
module is all of it, and the source of any code contains those of its instructions as long as none
of them is on a line before the code. -/
theorem codeGraph_within {code : Code} (h : code.Regular) (source : String) {file : String}
    (named : file ≠ "") : ∃ g, codeGraph code source file = .ok g ∧
      (∀ s ∈ g.body.span :: Block.sources g.body.blocks, s.Within file source.length) ∧
      (code.name = "<module>" → g.body.span.lo = 0 ∧ g.body.span.hi = source.length) ∧
      (code.StartsFirst source → ∀ s ∈ Block.sources g.body.blocks,
        g.body.span.Contains s.toRegion) := by
  obtain ⟨g, hg⟩ := exists_codeGraph h source file
  obtain ⟨o, ho, hs⟩ := shows_of_codeGraph h hg
  obtain ⟨hof, file_eq⟩ := Code.of_origin h ho
  rw [if_neg named] at file_eq
  refine ⟨g, hg, ?_, ?_, ?_⟩
  · rw [← file_eq]
    intro s hsource
    rcases List.mem_cons.1 hsource with rfl | hsource
    · exact hs.within_span h hof
    · exact hs.within_source h hof hsource
  · intro isModule
    rw [hs.span, Code.wholeSpan, if_pos isModule]
    exact ⟨rfl, rfl⟩
  · intro first s hsource
    obtain ⟨i, hi, hspan⟩ := hs.exists_instruction h hsource
    rw [hs.span]
    exact Code.contains_wholeSpan hsource (hs.within_source h hof hsource)
      (Code.start_le_of_spanOf h ho first hi hspan)

/-- A function with an instruction that ends before it starts, one on a line that is not there, one
at a negative column and one that is nowhere. -/
def scattered : Code where
  file := "area.src"
  name := "area"
  firstLine := some 2
  instructions := [
    ⟨0, 116, "LOAD_GLOBAL", some 0, some 0, "x", some ⟨some 3, some 2, some 11, some 4⟩⟩,
    ⟨2, 100, "LOAD_CONST", some 1, none, "2", some ⟨some 9, some 9, some 0, some 5⟩⟩,
    ⟨4, 122, "BINARY_OP", some 5, some 5, "*", some ⟨some 2, none, some (-3), none⟩⟩,
    ⟨6, 83, "RETURN_VALUE", none, none, "", none⟩]

theorem codeGraph_within_scattered : scattered.Regular ∧ "area.src" ≠ "" ∧
    scattered.StartsFirst "x = 1\ndef area():\n    return x * 2\n" ∧
    ∃ g, codeGraph scattered "x = 1\ndef area():\n    return x * 2\n" "area.src" = .ok g ∧
      ∀ s ∈ Block.sources g.body.blocks, g.body.span.Contains s.toRegion := by
  have regular : scattered.Regular := by constructor <;> decide
  have named : "area.src" ≠ "" := by decide
  have ordered : ∀ i ∈ scattered.instructions, ∀ p ∈ i.positions, ∀ n ∈ p.line, 1 ≤ n →
      ∀ first ∈ scattered.firstLine, first ≤ n := by decide
  have first : scattered.StartsFirst "x = 1\ndef area():\n    return x * 2\n" := by
    intro i hi p hp n hn positive _
    exact ordered i hi p hp n hn positive
  obtain ⟨g, hg, -, -, contains⟩ :=
    codeGraph_within regular "x = 1\ndef area():\n    return x * 2\n" named
  exact ⟨regular, named, first, g, hg, contains first⟩

end Bytecode

end TraceLens
