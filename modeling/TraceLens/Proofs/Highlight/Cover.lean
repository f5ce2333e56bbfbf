import TraceLens.Highlight.Cache
import TraceLens.Proofs.Highlight.Painting
import TraceLens.Proofs.Traversal

/-!
# Covering a text

The ranges of a highlighted text follow one another from its start to its end, and each has the
style of all its characters. Whatever a cache has seen before, it answers as a new one does.

Main statements: `exists_covers`, and `Reachable.getOrCompute_eq` for a cache of any age.
-/

namespace TraceLens

namespace StyledRange

/-- Ranges that follow one another from `lo` to `hi`, none of them empty. -/
def Tile (lo hi : Int) : List StyledRange → Prop
  | [] => lo = hi
  | r :: rs => r.start = lo ∧ lo < r.stop ∧ Tile r.stop hi rs

/-- Ranges that follow one another from `lo` to `hi`, some of them perhaps empty. -/
def Follow (lo hi : Int) : List StyledRange → Prop
  | [] => lo = hi
  | r :: rs => r.start = lo ∧ lo ≤ r.stop ∧ Follow r.stop hi rs

variable {ranges : List StyledRange} {lo hi : Int}

theorem Follow.le (h : Follow lo hi ranges) : lo ≤ hi := by
  induction ranges generalizing lo with
  | nil => exact Int.le_of_eq h
  | cons r rs ih =>
    obtain ⟨-, hle, hrs⟩ := h
    exact Int.le_trans hle (ih hrs)

theorem Follow.start_le (h : Follow lo hi ranges) {r : StyledRange} (hr : r ∈ ranges) :
    lo ≤ r.start := by
  induction ranges generalizing lo with
  | nil => simp at hr
  | cons r' rs ih =>
    obtain ⟨rfl, hle, hrs⟩ := h
    rcases List.mem_cons.1 hr with rfl | hr
    · exact Int.le_refl _
    · exact Int.le_trans hle (ih hrs hr)

theorem Tile.follow (h : Tile lo hi ranges) : Follow lo hi ranges := by
  induction ranges generalizing lo with
  | nil => exact h
  | cons r rs ih =>
    obtain ⟨rfl, hlt, hrs⟩ := h
    exact ⟨rfl, Int.le_of_lt hlt, ih hrs⟩

theorem Tile.start_le (h : Tile lo hi ranges) {r : StyledRange} (hr : r ∈ ranges) :
    lo ≤ r.start :=
  h.follow.start_le hr

/-- Every position is in one of the ranges. -/
theorem Tile.exists_mem (h : Tile lo hi ranges) {p : Int} (hlo : lo ≤ p) (hhi : p < hi) :
    ∃ r ∈ ranges, r.start ≤ p ∧ p < r.stop := by
  induction ranges generalizing lo with
  | nil =>
    have : lo = hi := h
    omega
  | cons r rs ih =>
    obtain ⟨rfl, -, hrs⟩ := h
    by_cases hp : p < r.stop
    · exact ⟨r, List.mem_cons_self, hlo, hp⟩
    · obtain ⟨r', hr', hmem⟩ := ih hrs (by omega)
      exact ⟨r', List.mem_cons_of_mem _ hr', hmem⟩

end StyledRange

namespace Fragment

theorem length_styledChars (fs : List Fragment) : (styledChars fs).length = totalLength fs := by
  induction fs with
  | nil => rfl
  | cons f fs ih => simp [totalLength, ih, String.length_toList]

end Fragment

namespace StyledRange

open Fragment

theorem tile_ofFragments (start : Nat) (fs : List Fragment) :
    Tile start (start + totalLength fs : Nat) (ofFragments start fs) := by
  induction fs generalizing start with
  | nil => rfl
  | cons f fs ih =>
    unfold ofFragments
    split
    · rename_i hempty
      simpa [totalLength, hempty] using ih start
    · rename_i hne
      have : 0 < f.text.length := by
        rw [← String.length_toList]
        exact List.length_pos_iff.2 (by simpa using hne)
      refine ⟨rfl, by dsimp only; omega, ?_⟩
      have := ih (start + f.text.length)
      rwa [Nat.add_assoc] at this

/-- The characters of a range have its style. -/
theorem getElem?_styledChars_of_mem {start : Nat} {fs : List Fragment} {r : StyledRange}
    (hr : r ∈ ofFragments start fs) {p : Nat} (hlo : r.start ≤ start + p)
    (hhi : start + p < r.stop) :
    ∃ c, (styledChars fs)[p]? = some (r.style, c) := by
  induction fs generalizing start p with
  | nil => simp [ofFragments] at hr
  | cons f fs ih =>
    rw [styledChars_cons]
    unfold ofFragments at hr
    split at hr
    · rename_i hempty
      simpa [hempty] using ih hr hlo hhi
    · rcases List.mem_cons.1 hr with rfl | hr
      · have hp : p < f.text.toList.length := by
          rw [String.length_toList]
          dsimp only at hhi
          omega
        refine ⟨f.text.toList[p], ?_⟩
        rw [List.getElem?_append_left (by simpa using hp)]
        simp [hp]
      · have := (tile_ofFragments _ fs).start_le hr
        obtain ⟨k, rfl⟩ := Nat.exists_eq_add_of_le (show f.text.length ≤ p by omega)
        obtain ⟨c, hc⟩ := ih hr (p := k) (by omega) (by omega)
        refine ⟨c, ?_⟩
        rw [List.getElem?_append_right (by simp [String.length_toList])]
        simpa [String.length_toList] using hc

end StyledRange

/-! ## The highlighted text -/

/-- A highlighted text is the whole of a text in ranges: every character is in one of them, and
that one has the style that the tokens give to the character. -/
structure Highlighted.Covers (entry : Highlighted) (text : String) (styles : StyleTable)
    (tokens : List Token) : Prop where
  text_eq : entry.text = text
  tile : StyledRange.Tile 0 text.length entry.ranges
  filled : ∀ p : Int, 0 ≤ p → p < text.length → ∃ r ∈ entry.ranges, r.start ≤ p ∧ p < r.stop
  styled : ∀ r ∈ entry.ranges, ∀ p, r.start ≤ p → p < r.stop →
    Fragment.styleAt? styles text.length tokens p = some r.style

theorem exists_covers {scan : Scanner} {styles : StyleTable} {text : String}
    (known : ∀ t ∈ scan text, (styles.style? t.kind).isSome) :
    ∃ entry, highlightLines scan styles text >>= Highlighted.ofLines text = .ok entry ∧
      entry.Covers text styles (scan text) := by
  obtain ⟨lines, hlines, hpainted⟩ := exists_styledChars_highlightLines known
  have hlength : Fragment.totalLength lines.flatten = text.length := by
    rw [← Fragment.length_styledChars, hpainted, length_painted, String.length_toList]
  have tile : StyledRange.Tile 0 text.length (StyledRange.ofFragments 0 lines.flatten) := by
    simpa [hlength] using StyledRange.tile_ofFragments 0 lines.flatten
  refine ⟨⟨text, StyledRange.ofFragments 0 lines.flatten⟩, ?_, rfl, tile, ?_, ?_⟩
  · rw [bind_eq_ok_iff]
    exact ⟨lines, hlines, by simp [Highlighted.ofLines, hlength]⟩
  · intro p hlo hhi
    exact tile.exists_mem hlo hhi
  · intro r hr p hlo hhi
    have := tile.start_le hr
    obtain ⟨k, rfl⟩ := Int.eq_ofNat_of_zero_le (show 0 ≤ p by omega)
    obtain ⟨c, hc⟩ := StyledRange.getElem?_styledChars_of_mem hr (p := k) (by omega) (by omega)
    rw [hpainted, getElem?_painted, Option.map_eq_some_iff] at hc
    obtain ⟨d, -, heq⟩ := hc
    rw [Fragment.styleAt?_of_known known, ← (Prod.mk.inj heq).1, Int.zero_add]

namespace HighlightCache

/-- The caches that can come about with a highlighter. -/
inductive Reachable (highlight : Highlighter) : HighlightCache → Prop
  | empty : Reachable highlight {}
  | step {c : HighlightCache} (text : String) (reached : Reachable highlight c) :
      Reachable highlight (c.getOrCompute highlight text).2

variable {highlight : Highlighter} {c : HighlightCache}

/-- A stored entry is the one that its text is highlighted as. -/
theorem Reachable.entry_eq (hc : Reachable highlight c) {text : String} {entry : Highlighted}
    (h : c.entries.find? text = some entry) :
    highlight text >>= Highlighted.ofLines text = .ok entry := by
  induction hc with
  | empty => simp [Table.find?, Table.look] at h
  | step other reached ih =>
    rename_i c
    unfold getOrCompute at h
    split at h
    · exact ih h
    · split at h
      · exact ih h
      · rename_i new hnew
        by_cases heq : text = other
        · subst heq
          rw [Table.find?_insert_self, Option.some_inj] at h
          rw [hnew, h]
        · rw [Table.find?_insert_of_ne _ _ heq] at h
          exact ih h

/-- A cache answers as if it were new. -/
theorem Reachable.getOrCompute_eq (hc : Reachable highlight c) (text : String) :
    (c.getOrCompute highlight text).1 = highlight text >>= Highlighted.ofLines text := by
  unfold getOrCompute
  split
  · rename_i entry hentry
    exact (hc.entry_eq hentry).symm
  · split <;> rename_i h <;> exact h.symm

/-- Highlighting covers a text exactly, and styles each character by the right token. -/
theorem getOrCompute_covers {scan : Scanner} {styles : StyleTable} {text : String}
    (known : ∀ t ∈ scan text, (styles.style? t.kind).isSome)
    (hc : Reachable (highlightLines scan styles) c) :
    ∃ entry, (c.getOrCompute (highlightLines scan styles) text).1 = .ok entry ∧
      entry.Covers text styles (scan text) := by
  rw [hc.getOrCompute_eq]
  exact exists_covers known

/-- Tokens that go back, overlap, are empty and lie outside of their text. -/
def strayTokens : List Token :=
  [⟨2, "Keyword", 3⟩, ⟨-1, "Name", 4⟩, ⟨7, "Name", 0⟩, ⟨5, "Name", 9⟩, ⟨30, "Keyword", 2⟩]

/-- A style for each of two kinds. -/
def plainStyles : StyleTable where
  background := none
  default := {}
  style? := fun kind =>
    if kind = "Keyword" then some { bold := true }
    else if kind = "Name" then some { italic := true }
    else none

theorem getOrCompute_covers_strayTokens :
    (∀ t ∈ strayTokens, (plainStyles.style? t.kind).isSome) ∧
      ∃ entry, (({} : HighlightCache).getOrCompute
          (highlightLines (fun _ => strayTokens) plainStyles) "while x:\n  pass\n").1 = .ok entry ∧
        entry.Covers "while x:\n  pass\n" plainStyles strayTokens := by
  have known : ∀ t ∈ strayTokens, (plainStyles.style? t.kind).isSome := by decide
  exact ⟨known, getOrCompute_covers known .empty⟩

end HighlightCache

end TraceLens
