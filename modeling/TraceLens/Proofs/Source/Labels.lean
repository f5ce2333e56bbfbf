import Mathlib.Data.List.Basic
import Mathlib.Data.List.Induction
import Mathlib.Data.Prod.Lex
import TraceLens.Proofs.Graph.NodeName
import TraceLens.Source.Label

/-!
# Labels of regions

A label gives the line and the column of both ends of a region, and only LF ends a line there.
Lines and columns ascend with the offsets they stand for, and they lead back to them.

Main statements: `lineColumn_eq` reads a line and a column off the text before a place,
`lineColumn_lt` says that they ascend, and `label_identifies` that a label tells a region from all
others of its file.
-/

namespace TraceLens

/-- The offset right after the first `m` line feeds of a text. -/
def afterFeeds : List Char → Nat → Nat
  | [], _ => 0
  | _, 0 => 0
  | c :: cs, m + 1 => afterFeeds cs (if c = '\n' then m else m + 1) + 1

/-- The characters that follow an offset on its line. -/
def lineFrom (cs : List Char) (start : Nat) : List Char := (cs.drop start).takeWhile (· != '\n')

/-- A region that lies in a text, with its ends in any order. -/
structure Region.EndsIn (r : Region) (text : String) : Prop where
  lo : 0 ≤ r.lo ∧ r.lo ≤ text.length
  hi : 0 ≤ r.hi ∧ r.hi ≤ text.length

/-- How the lines and columns of a text, and the labels made of them, stand for its offsets. -/
structure LabelsOf (text : String) : Prop where
  /-- A place further on has a line and a column further on. -/
  ascending : ∀ a b : Nat, a < b → b ≤ text.length →
    toLex (lineColumn text a) < toLex (lineColumn text b)
  /-- The line and the column of a place lead back to it; the text has that line, and the line has
  that column. -/
  inverse : ∀ a : Nat, a ≤ text.length → ∃ m k : Nat,
    lineColumn text a = (((m + 1 : Nat) : Int), ((k + 1 : Nat) : Int)) ∧
      afterFeeds text.toList m + k = a ∧ m ≤ text.toList.count '\n' ∧
      k ≤ (lineFrom text.toList (afterFeeds text.toList m)).length
  /-- Regions of a file with the same label are the same. -/
  distinct : ∀ r s : Region, r.EndsIn text → s.EndsIn text → r.file = s.file → ∀ aliases,
    r.label (some text) aliases = s.label (some text) aliases → r.lo = s.lo ∧ r.hi = s.hi

/-! ## The line before a place -/

/-- Some text ends in a piece of its last line, with whole lines before it. -/
structure EndsInLine (cs whole piece : List Char) : Prop where
  eq : cs = whole ++ piece
  noFeed : '\n' ∉ piece
  feed : whole = [] ∨ whole.getLast? = some '\n'

namespace EndsInLine

variable {cs whole piece : List Char} {c : Char}

theorem ofFeed (cs : List Char) : EndsInLine (cs ++ ['\n']) (cs ++ ['\n']) [] :=
  ⟨(List.append_nil _).symm, List.not_mem_nil, .inr List.getLast?_concat⟩

theorem concat (h : EndsInLine cs whole piece) (hc : c ≠ '\n') :
    EndsInLine (cs ++ [c]) whole (piece ++ [c]) where
  eq := by rw [h.eq, List.append_assoc]
  noFeed := by simp [h.noFeed, Ne.symm hc]
  feed := h.feed

theorem exists_pieces (cs : List Char) : ∃ whole piece, EndsInLine cs whole piece := by
  induction cs using List.reverseRecOn with
  | nil => exact ⟨[], [], rfl, List.not_mem_nil, .inl rfl⟩
  | append_singleton cs c ih =>
    by_cases hc : c = '\n'
    · subst hc
      exact ⟨_, _, ofFeed cs⟩
    · obtain ⟨whole, piece, h⟩ := ih
      exact ⟨_, _, h.concat hc⟩

/-- Reading back from the end of a text stops where its last line starts. -/
theorem takeWhile_reverse (h : EndsInLine cs whole piece) :
    cs.reverse.takeWhile (· != '\n') = piece.reverse := by
  have inPiece : ∀ c ∈ piece.reverse, (c != '\n') = true := by
    intro c hc
    rw [bne_iff_ne]
    rintro rfl
    exact h.noFeed (List.mem_reverse.1 hc)
  have atFeed : whole.reverse.takeWhile (· != '\n') = [] := by
    rcases h.feed with rfl | hlast
    · rfl
    · obtain ⟨init, rfl⟩ := List.getLast?_eq_some_iff.1 hlast
      simp
  rw [h.eq, List.reverse_append, List.takeWhile_append_of_pos inPiece, atFeed, List.append_nil]

theorem count_eq (h : EndsInLine cs whole piece) : cs.count '\n' = whole.count '\n' := by
  rw [h.eq, List.count_append, List.count_eq_zero_of_not_mem h.noFeed, Nat.add_zero]

/-- The last line starts right after as many line feeds as come before it. -/
theorem afterFeeds_count (h : EndsInLine cs whole piece) (rest : List Char) :
    afterFeeds (whole ++ rest) (whole.count '\n') = whole.length := by
  have feed := h.feed
  clear h
  induction whole with
  | nil => cases rest <;> rfl
  | cons c whole ih =>
    by_cases last : whole = []
    · obtain rfl : c = '\n' := by simpa [last] using feed
      subst last
      cases rest <;> rfl
    · have feed : whole.getLast? = some '\n' := by
        obtain ⟨d, more, rfl⟩ := List.exists_cons_of_ne_nil last
        simpa using feed
      have ih := ih (.inr feed)
      obtain ⟨m, hm⟩ : ∃ m, whole.count '\n' = m + 1 :=
        Nat.exists_eq_succ_of_ne_zero (List.count_pos_iff.2 (List.mem_of_getLast? feed)).ne'
      by_cases hc : c = '\n'
      · simpa [afterFeeds, hc] using ih
      · simpa [afterFeeds, hc, hm] using ih

end EndsInLine

/-! ## Lines and columns -/

section Places

variable {text : String} {whole piece : List Char} {a b : Nat} {c : Char}

theorem lineColumn_eq (h : EndsInLine (text.toList.take a) whole piece) (ha : a ≤ text.length) :
    lineColumn text a =
      (((whole.count '\n' + 1 : Nat) : Int), ((piece.length + 1 : Nat) : Int)) := by
  have length : whole.length + piece.length = a := by
    rw [← List.length_append, ← h.eq, List.length_take_of_le (by rwa [String.length_toList])]
  rw [lineColumn, Signed.cut_natCast, Nat.min_eq_left ha, h.takeWhile_reverse, h.count_eq]
  simp only [h.eq, List.length_append, List.length_reverse]
  congr 1
  omega

/-- One character further on is the start of the next line after an LF, and otherwise the next
column. -/
theorem lineColumn_succ (hc : text.toList[a]? = some c) :
    lineColumn text (a + 1 : Nat) =
      if c = '\n' then ((lineColumn text a).1 + 1, 1)
      else ((lineColumn text a).1, (lineColumn text a).2 + 1) := by
  have ha : a < text.length := by
    rw [← String.length_toList]
    exact (List.getElem?_eq_some_iff.1 hc).1
  have next : text.toList.take (a + 1) = text.toList.take a ++ [c] := by
    rw [List.take_add_one, hc, Option.toList_some]
  obtain ⟨whole, piece, h⟩ := EndsInLine.exists_pieces (text.toList.take a)
  rw [lineColumn_eq h ha.le]
  split_ifs with feed
  · subst feed
    have ended : EndsInLine (text.toList.take (a + 1)) (text.toList.take a ++ ['\n']) [] := by
      rw [next]
      exact .ofFeed _
    rw [lineColumn_eq ended ha, List.count_append, h.count_eq]
    rfl
  · have longer : EndsInLine (text.toList.take (a + 1)) whole (piece ++ [c]) := by
      rw [next]
      exact h.concat feed
    rw [lineColumn_eq longer ha, List.length_append]
    rfl

theorem lineColumn_lt_succ (ha : a < text.length) :
    toLex (lineColumn text a) < toLex (lineColumn text (a + 1 : Nat)) := by
  rw [← String.length_toList] at ha
  rw [lineColumn_succ (List.getElem?_eq_getElem ha), Prod.Lex.toLex_lt_toLex]
  split_ifs
  · exact .inl (Int.lt_succ _)
  · exact .inr ⟨rfl, Int.lt_succ _⟩

/-- Lines and columns ascend with their offsets. -/
theorem lineColumn_lt (hab : a < b) (hb : b ≤ text.length) :
    toLex (lineColumn text a) < toLex (lineColumn text b) := by
  induction b, hab using Nat.le_induction with
  | base => exact lineColumn_lt_succ hb
  | succ b _ ih => exact (ih (by omega)).trans (lineColumn_lt_succ hb)

theorem lineColumn_inj {a b : Int} (ha : 0 ≤ a ∧ a ≤ text.length) (hb : 0 ≤ b ∧ b ≤ text.length)
    (h : lineColumn text a = lineColumn text b) : a = b := by
  lift a to ℕ using ha.1
  lift b to ℕ using hb.1
  rcases Nat.lt_trichotomy a b with hlt | rfl | hgt
  · have := lineColumn_lt hlt (Int.ofNat_le.1 hb.2)
    rw [h] at this
    exact absurd this (lt_irrefl _)
  · rfl
  · have := lineColumn_lt hgt (Int.ofNat_le.1 ha.2)
    rw [h] at this
    exact absurd this (lt_irrefl _)

/-- A line and a column lead back to the place they stand for. -/
theorem exists_lineColumn_eq (ha : a ≤ text.length) : ∃ m k : Nat,
    lineColumn text a = (((m + 1 : Nat) : Int), ((k + 1 : Nat) : Int)) ∧
      afterFeeds text.toList m + k = a ∧ m ≤ text.toList.count '\n' ∧
      k ≤ (lineFrom text.toList (afterFeeds text.toList m)).length := by
  obtain ⟨whole, piece, h⟩ := EndsInLine.exists_pieces (text.toList.take a)
  have all : text.toList = whole ++ (piece ++ text.toList.drop a) := by
    rw [← List.append_assoc, ← h.eq, List.take_append_drop]
  have start : afterFeeds text.toList (whole.count '\n') = whole.length := by
    rw [all]
    exact h.afterFeeds_count _
  refine ⟨whole.count '\n', piece.length, lineColumn_eq h ha, ?_, ?_, ?_⟩
  · rw [start, ← List.length_append, ← h.eq, List.length_take_of_le (by rwa [String.length_toList])]
  · rw [← h.count_eq]
    exact (List.take_sublist a _).count_le _
  · have inPiece : ∀ c ∈ piece, (c != '\n') = true := by
      intro c hc
      rw [bne_iff_ne]
      rintro rfl
      exact h.noFeed hc
    rw [start, lineFrom, all, List.drop_left, List.takeWhile_append_of_pos inPiece,
      List.length_append]
    exact Nat.le_add_right _ _

end Places

/-! ## Labels -/

theorem notMem_toString {c : Char} (h : isNameChar c = false) (i : Int) :
    c ∉ (toString i).toList := by
  intro hc
  cases (isNameChar_of_mem_toString hc).symm.trans h

theorem placeText_inj {p q : Int × Int} (h : placeText p = placeText q) : p = q := by
  have text (p : Int × Int) :
      (placeText p).toList = (toString p.1).toList ++ ':' :: (toString p.2).toList := by
    simp [placeText]
  have digits (i : Int) : ':' ∉ (toString i).toList := notMem_toString rfl i
  have h := congrArg String.toList h
  rw [text, text, List.append_cons_inj_of_notMem (digits _) (digits _)] at h
  obtain ⟨line, -, column⟩ := h
  exact Prod.ext (toString_inj.1 (String.toList_inj.1 line))
    (toString_inj.1 (String.toList_inj.1 column))

/-- A label that tells places gives the lines and columns of both. -/
theorem Region.label_inj {r s : Region} {text : String} {aliases : Table String String}
    (file : r.file = s.file) (h : r.label (some text) aliases = s.label (some text) aliases) :
    lineColumn text r.lo = lineColumn text s.lo ∧ lineColumn text r.hi = lineColumn text s.hi := by
  have blank (p : Int × Int) : ' ' ∉ (placeText p).toList := by
    have digits (i : Int) : ' ' ∉ (toString i).toList := notMem_toString rfl i
    rw [placeText, String.toList_append, String.toList_append, List.mem_append, List.mem_append]
    rintro ((line | colon) | column)
    · exact digits _ line
    · exact absurd colon (by decide)
    · exact digits _ column
  have h := congrArg String.toList h
  simp only [Region.label, file, String.toList_append, List.append_assoc,
    List.append_cancel_left_eq] at h
  -- the blank is in neither place, so it is the first of its kind after the path
  have cut (p q : Int × Int) : (placeText p).toList ++ (": ".toList ++ (placeText q).toList) =
      ((placeText p).toList ++ [':']) ++ ' ' :: (placeText q).toList := by
    simp
  rw [cut, cut, List.append_cons_inj_of_notMem (by simp [blank]) (blank _),
    List.append_left_inj] at h
  obtain ⟨lo, -, hi⟩ := h
  exact ⟨placeText_inj (String.toList_inj.1 lo), placeText_inj (String.toList_inj.1 hi)⟩

/-- The lines and columns of a label say where its region lies, and no other region has them. -/
theorem label_identifies (text : String) : LabelsOf text where
  ascending a b hab hb := lineColumn_lt hab hb
  inverse a ha := exists_lineColumn_eq ha
  distinct r s hr hs file aliases h := by
    obtain ⟨lo, hi⟩ := Region.label_inj file h
    exact ⟨lineColumn_inj hr.lo hs.lo lo, lineColumn_inj hr.hi hs.hi hi⟩

end TraceLens
