import Mathlib.Data.List.Basic
import TraceLens.Bytecode.CodeGraph
import TraceLens.Proofs.Bytecode.Runs

/-!
# Sources of instructions

Whatever columns and end positions an instruction has, its source is a stretch of the text. A line
that does not exist, an end that is missing and an end before the start all fall back on a place
inside the text.

Main statement: `exists_spanOf` says that every instruction of regular code has a source, and that
it lies in the text.
-/

namespace TraceLens

/-- A region of `file` that lies in a text of `length` characters. -/
structure Region.Within (r : Region) (file : String) (length : Nat) : Prop where
  file_eq : r.file = file
  lo_nonneg : 0 ≤ r.lo
  lo_le_hi : r.lo ≤ r.hi
  hi_le : r.hi ≤ length

/-- A span that lies in a text and was not expanded from anywhere. -/
structure Span.Within (s : Span) (file : String) (length : Nat) : Prop extends
    s.toRegion.Within file length where
  callSites_eq : s.callSites = []

/-! ## Lines -/

namespace LineTable

theorem start_add_length_le_of_mem_place {start : Nat} {lines : List (List Char)} {l : TextLine}
    (h : l ∈ place start lines) :
    l.start + l.chars.length ≤ start + lines.flatten.length := by
  induction lines generalizing start with
  | nil => simp [place] at h
  | cons line rest ih =>
    rcases List.mem_cons.1 h with rfl | hrest
    · simp
    · have := ih hrest
      simp only [List.flatten_cons, List.length_append]
      omega

theorem start_add_length_le {text : String} {l : TextLine} (h : l ∈ ofText text) :
    l.start + l.chars.length ≤ text.length := by
  have := start_add_length_le_of_mem_place h
  simpa [flatten_physicalLines, String.length_toList] using this

/-- A number that can name a line and is not negative names one. -/
theorem exists_line?_of_number? {table : LineTable} {line : Option Int} {n : Int}
    (h : table.number? line = some n) (hn : ∀ m ∈ line, 0 ≤ m) :
    line = some n ∧ ∃ l ∈ table, table.line? n = some l := by
  cases line with
  | none => simp [number?] at h
  | some m =>
    have hm := hn m rfl
    simp only [number?] at h
    split at h
    · simp at h
    · rename_i hrange
      obtain rfl : m = n := by simpa using h
      obtain ⟨k, hk⟩ := Int.eq_ofNat_of_zero_le (show 0 ≤ m - 1 by omega)
      have hlt : k < table.length := by omega
      refine ⟨rfl, table[k], List.getElem_mem hlt, ?_⟩
      rw [line?, hk, Signed.get?_natCast, List.getElem?_eq_getElem hlt]

end LineTable

namespace TextLine

theorem offset_le (l : TextLine) (column : Option Int) :
    l.offset column ≤ l.start + l.chars.length := by
  cases column with
  | none => simp [offset]
  | some c => exact Nat.add_le_add_left (charsWithin_le _ _) _

theorem visibleLength_le (l : TextLine) : l.visibleLength ≤ l.chars.length := by
  have := (List.dropWhile_sublist (fun c => decide (c = '\r' ∨ c = '\n'))
    (l := l.chars.reverse)).length_le
  simpa [visibleLength] using this

end TextLine

namespace Bytecode

/-- A line number that is not negative never stops the reading of an offset, and the offset lies in
the text. -/
theorem exists_offsetOf (text : String) {line : Option Int} (column : Option Int)
    (h : ∀ n ∈ line, 0 ≤ n) :
    ∃ o, offsetOf (.ofText text) line column = .ok o ∧ ∀ x ∈ o, x ≤ text.length := by
  unfold offsetOf
  cases hn : (LineTable.ofText text).number? line with
  | none => exact ⟨none, rfl, by simp⟩
  | some n =>
    obtain ⟨-, l, hl, hline⟩ := LineTable.exists_line?_of_number? hn h
    refine ⟨some (l.offset column), by simp [hline], ?_⟩
    rintro x ⟨⟩
    exact (l.offset_le column).trans (LineTable.start_add_length_le hl)

/-! ## Origins -/

/-- An origin that reads its offsets off a text and starts inside it. -/
structure Origin.Of (o : Origin) (text : String) : Prop where
  lines_eq : o.lines = .ofText text
  start_le : o.start ≤ text.length

theorem Code.exists_origin {code : Code} (h : code.Regular) (source file : String) :
    ∃ o, code.origin source file = .ok o ∧ o.Of source ∧
      o.file = if file = "" then code.file else file := by
  obtain ⟨start?, hstart, hle⟩ := exists_offsetOf source none h.firstLine
  refine ⟨_, by simp [origin, hstart]; rfl, ⟨rfl, ?_⟩, rfl⟩
  cases start? with
  | none => simp
  | some x => exact hle x rfl

theorem Code.of_origin {code : Code} (h : code.Regular) {source file : String} {o : Origin}
    (ho : code.origin source file = .ok o) :
    o.Of source ∧ o.file = if file = "" then code.file else file := by
  obtain ⟨o', ho', hof, hfile⟩ := exists_origin h source file
  obtain rfl : o' = o := Except.ok.inj (ho'.symm.trans ho)
  exact ⟨hof, hfile⟩

namespace Origin

variable {o : Origin} {text : String}

theorem within_region (o : Origin) {lo hi length : Nat} (hle : lo ≤ hi) (hhi : hi ≤ length) :
    (o.region lo hi).Within o.file length :=
  ⟨⟨rfl, by simp [region, Span.ofRegion], by simpa [region, Span.ofRegion],
    by simpa [region, Span.ofRegion]⟩, rfl⟩

theorem exists_openStop (ho : o.Of text) {lo : Nat} (hlo : lo ≤ text.length) {p : Positions}
    {l : TextLine} (hl : l ∈ o.lines) (hline : p.line.bind o.lines.line? = some l) :
    ∃ hi?, stopOf.openStop o lo p = .ok hi? ∧ ∀ hi ∈ hi?, hi ≤ text.length := by
  unfold stopOf.openStop
  cases p.column with
  | some c => exact ⟨some lo, rfl, by simpa using hlo⟩
  | none =>
    rw [ho.lines_eq] at hl
    have := l.visibleLength_le
    have := LineTable.start_add_length_le hl
    exact ⟨some (l.start + l.visibleLength), by simp [hline], by simp; omega⟩

theorem exists_stopOf (ho : o.Of text) {lo : Nat} (hlo : lo ≤ text.length) {p : Positions}
    (hend : ∀ n ∈ p.endLine, 0 ≤ n) {l : TextLine} (hl : l ∈ o.lines)
    (hline : p.line.bind o.lines.line? = some l) :
    ∃ hi?, o.stopOf lo p = .ok hi? ∧ ∀ hi ∈ hi?, hi ≤ text.length := by
  unfold stopOf
  split
  · rename_i endLine endColumn hendLine _
    split
    · exact exists_openStop ho hlo hl hline
    · rw [ho.lines_eq]
      exact exists_offsetOf text (some endColumn) (by simpa [hendLine] using hend)
  · exact exists_openStop ho hlo hl hline

/-- An instruction has a source, and it lies in the text. -/
theorem exists_spanOf (ho : o.Of text) {i : Instruction}
    (hi : ∀ p ∈ i.positions, (∀ n ∈ p.line, 0 ≤ n) ∧ ∀ n ∈ p.endLine, 0 ≤ n) :
    ∃ s, o.spanOf i = .ok s ∧ s.Within o.file text.length := by
  have start := o.within_region le_rfl ho.start_le
  unfold spanOf
  cases hp : i.positions with
  | none => exact ⟨_, rfl, start⟩
  | some p =>
    obtain ⟨hline, hend⟩ := hi p hp
    obtain ⟨lo?, hlo, hle⟩ := exists_offsetOf text p.column hline
    rw [← ho.lines_eq] at hlo
    cases lo? with
    | none => exact ⟨_, by simp only [hlo]; rfl, start⟩
    | some lo =>
      have hlo' : lo ≤ text.length := hle lo rfl
      obtain ⟨n, hn⟩ : ∃ n, o.lines.number? p.line = some n := by
        unfold offsetOf at hlo
        cases hn : o.lines.number? p.line with
        | none => simp [hn] at hlo
        | some n => exact ⟨n, rfl⟩
      obtain ⟨hpn, l, hl, hline?⟩ := LineTable.exists_line?_of_number? hn hline
      obtain ⟨hi?, hhi, hhile⟩ :=
        exists_stopOf ho hlo' hend hl (by rw [hpn]; exact hline?)
      refine ⟨o.region lo (max lo (hi?.getD lo)), ?_,
        o.within_region (Nat.le_max_left _ _) (Nat.max_le.2 ⟨hlo', ?_⟩)⟩
      · simp only [hlo, bind, Except.bind, hhi]
        rfl
      · cases hi? with
        | none => exact hlo'
        | some hi => exact hhile hi rfl

end Origin

end Bytecode

end TraceLens
