import TraceLens.Proofs.Highlight.Cover
import TraceLens.Source.Mark

/-!
# Marking in a covered text

A split cuts the styled characters at its index, so in ranges that cover a text a span is marked
with just its own characters: some for a span that is not empty, and none for one that is.

Main statements: `styledChars_splitAt`, `styledChars_fragments` and `MarkedText.styledChars_of`, and
`markSpan_eq` gives the markup of a span inside a covered text.
-/

namespace TraceLens

namespace Fragment

theorem styledChars_splitAt (fs : List Fragment) (index : Int) :
    styledChars (splitAt fs index).1 = (styledChars fs).take index.toNat ∧
      styledChars (splitAt fs index).2 = (styledChars fs).drop index.toNat := by
  fun_induction splitAt fs index with
  | case1 => simp
  | case2 f fs index hle =>
    have : index.toNat = 0 := by omega
    simp [this]
  | case3 f fs index hpos hlen before after hsplit ih =>
    rw [hsplit] at ih
    obtain ⟨k, rfl⟩ := Int.eq_ofNat_of_zero_le (show 0 ≤ index by omega)
    have hk : (styledChars [f]).length ≤ k := by
      rw [length_styledChars]
      simp only [totalLength]
      omega
    have hrest : ((k : Int) - f.text.length).toNat = k - (styledChars [f]).length := by
      rw [length_styledChars]
      simp only [totalLength]
      omega
    rw [hrest] at ih
    have split : styledChars (f :: fs) = styledChars [f] ++ styledChars fs := by simp
    rw [split, Int.toNat_natCast, List.take_append, List.drop_append, ← ih.1, ← ih.2,
      List.take_of_length_le hk, List.drop_eq_nil_of_le hk]
    exact ⟨by simp, rfl⟩
  | case4 f fs index hpos hlen chars =>
    have hlt : index.toNat ≤ (f.text.toList.map fun c => (f.style, c)).length := by
      rw [List.length_map, String.length_toList]
      omega
    have split : styledChars (f :: fs) =
        (f.text.toList.map fun c => (f.style, c)) ++ styledChars fs := rfl
    rw [split, List.take_append_of_le_length hlt, List.drop_append_of_le_length hlt]
    simp [chars]

end Fragment

/-! ## Markup -/

theorem Html.escape_eq_empty_iff {text : String} : Html.escape text = "" ↔ text = "" := by
  have shown (c : Char) : Html.escapeChar c ≠ [] := by
    unfold Html.escapeChar
    split <;> simp
  rw [← String.toList_eq_nil_iff, Html.toList_escape, List.flatMap_eq_nil_iff,
    ← String.toList_eq_nil_iff, List.eq_nil_iff_forall_not_mem]
  simp [shown]

namespace Fragment

theorem html_eq_empty_iff {f : Fragment} : f.html = "" ↔ f.text = "" := by
  unfold html
  split
  · simp_all
  · split
    · exact Html.escape_eq_empty_iff
    · rename_i hne _
      simp only [hne, iff_false, ← String.toList_eq_nil_iff]
      simp

/-- Fragments leave no markup only if they hold no characters. -/
theorem htmlOf_eq_empty_iff {fs : List Fragment} : htmlOf fs = "" ↔ styledChars fs = [] := by
  rw [← String.toList_eq_nil_iff]
  simp [htmlOf, html_eq_empty_iff, styledChars]

end Fragment

/-! ## Ranges -/

/-- Neighbouring stretches of a list put together. -/
theorem drop_take_append_drop_take {α : Type} (xs : List α) {a b c : Nat} (hab : a ≤ b)
    (hbc : b ≤ c) : (xs.take b).drop a ++ (xs.take c).drop b = (xs.take c).drop a := by
  have parts : c - a = (b - a) + (c - b) := by omega
  have next : a + (b - a) = b := by omega
  rw [List.drop_take, List.drop_take, List.drop_take, parts, List.take_add, List.drop_drop, next]

namespace StyledRange

/-- The style of the range that a position lies in; outside of all ranges it is plain. -/
def styleAt (ranges : List StyledRange) (p : Int) : TextStyle :=
  ((ranges.find? fun r => r.start ≤ p ∧ p < r.stop).map StyledRange.style).getD {}

variable {text : String} {ranges : List StyledRange} {lo hi : Int}

/-- A position lies in one range only. -/
theorem Follow.styleAt_eq (h : Follow lo hi ranges) {r : StyledRange} (hr : r ∈ ranges) {p : Int}
    (hstart : r.start ≤ p) (hstop : p < r.stop) : styleAt ranges p = r.style := by
  induction ranges generalizing lo with
  | nil => simp at hr
  | cons first rs ih =>
    obtain ⟨rfl, hle, hrs⟩ := h
    rcases List.mem_cons.1 hr with rfl | hr
    · simp [styleAt, hstart, hstop]
    · have := hrs.start_le hr
      have later : ¬(first.start ≤ p ∧ p < first.stop) := by omega
      rw [← ih hrs hr, styleAt, styleAt, List.find?_cons_of_neg (by simpa using later)]

/-- The fragments that ranges cut out of a text are the stretch of it that the ranges go through,
each character in the style of its range. -/
theorem styledChars_fragments {style : Int → TextStyle} (h : Follow lo hi ranges) (hlo : 0 ≤ lo)
    (hhi : hi ≤ text.length)
    (hstyle : ∀ r ∈ ranges, ∀ p, r.start ≤ p → p < r.stop → style p = r.style) :
    Fragment.styledChars (fragments text ranges) =
      painted style lo ((text.toList.take hi.toNat).drop lo.toNat) := by
  induction ranges generalizing lo with
  | nil =>
    obtain rfl : lo = hi := h
    rw [List.drop_eq_nil_of_le (List.length_take_le _ _)]
    rfl
  | cons r rs ih =>
    obtain ⟨rfl, hle, hrs⟩ := h
    have hstop := hrs.le
    have rest := ih hrs (by omega) fun r' hr' => hstyle r' (List.mem_cons_of_mem _ hr')
    obtain ⟨a, ha⟩ := Int.eq_ofNat_of_zero_le hlo
    obtain ⟨b, hb⟩ := Int.eq_ofNat_of_zero_le (show 0 ≤ r.stop by omega)
    obtain ⟨c, rfl⟩ := Int.eq_ofNat_of_zero_le (show 0 ≤ hi by omega)
    have own : Signed.slice text.toList r.start r.stop = (text.toList.take b).drop a := by
      rw [ha, hb, Signed.slice_natCast]
    have length : ((text.toList.take b).drop a).length = b - a := by
      rw [List.length_drop, List.length_take, String.length_toList]
      omega
    have first : ((text.toList.take b).drop a).map (fun c => (r.style, c)) =
        painted style a ((text.toList.take b).drop a) := by
      refine (painted_eq_map fun p hp hlt => ?_).symm
      exact hstyle r List.mem_cons_self p (by omega) (by omega)
    have next : (a : Int) + (b - a : Nat) = b := by omega
    calc Fragment.styledChars (fragments text (r :: rs))
        = (Signed.slice text.toList r.start r.stop).map (fun c => (r.style, c)) ++
            Fragment.styledChars (fragments text rs) := by simp [fragments]
      _ = painted style a ((text.toList.take b).drop a) ++
            painted style b ((text.toList.take c).drop b) := by
          rw [rest, own, first, hb, Int.toNat_natCast, Int.toNat_natCast]
      _ = painted style a ((text.toList.take c).drop a) := by
          rw [← drop_take_append_drop_take text.toList (show a ≤ b by omega)
            (show b ≤ c by omega), painted_append, length, next]
      _ = painted style r.start ((text.toList.take (c : Int).toNat).drop r.start.toNat) := by
          rw [ha, Int.toNat_natCast, Int.toNat_natCast]

/-- The fragments that ranges cut out of a text hold the stretch of it that the ranges tile. -/
theorem map_snd_styledChars_fragments (h : Tile lo hi ranges) (hlo : 0 ≤ lo)
    (hhi : hi ≤ text.length) :
    (Fragment.styledChars (fragments text ranges)).map Prod.snd =
      (text.toList.take hi.toNat).drop lo.toNat := by
  have painted := styledChars_fragments h.follow hlo hhi fun r hr p hstart hstop =>
    h.follow.styleAt_eq hr hstart hstop
  rw [painted, map_snd_painted]

end StyledRange

/-- The three parts of a text are those before, inside and after the span. -/
theorem MarkedText.styledChars_of (text : String) (ranges : List StyledRange) {lo hi : Int}
    (hlo : 0 ≤ lo) (hle : lo ≤ hi) :
    let all := Fragment.styledChars (StyledRange.fragments text ranges)
    let parts := MarkedText.of text ranges lo hi
    Fragment.styledChars parts.before = all.take lo.toNat ∧
      Fragment.styledChars parts.inside = (all.take hi.toNat).drop lo.toNat ∧
      Fragment.styledChars parts.after = all.drop hi.toNat := by
  intro all parts
  obtain ⟨before, rest⟩ := Fragment.styledChars_splitAt (StyledRange.fragments text ranges) lo
  obtain ⟨inside, after⟩ := Fragment.styledChars_splitAt
    (Fragment.splitAt (StyledRange.fragments text ranges) lo).2 (hi - lo)
  rw [rest] at inside after
  have length : (hi - lo).toNat = hi.toNat - lo.toNat := by omega
  have stop : lo.toNat + (hi - lo).toNat = hi.toNat := by omega
  refine ⟨before, ?_, ?_⟩
  · rw [List.drop_take, ← length]
    exact inside
  · rw [List.drop_drop, stop] at after
    exact after

/-- The markup of a span that lies in a covered text. -/
theorem markSpan_eq {text : String} {ranges : List StyledRange}
    (h : StyledRange.Tile 0 text.length ranges) {lo hi : Int} (hlo : 0 ≤ lo) (hle : lo ≤ hi)
    (hhi : hi ≤ text.length) (style : String) :
    let parts := MarkedText.of text ranges lo hi
    markSpan text ranges lo hi style = .ok (Fragment.htmlOf parts.before ++ markerTag style ++
      (if lo = hi then markerGlyph else Fragment.htmlOf parts.inside) ++ "</span>" ++
      Fragment.htmlOf parts.after) := by
  intro parts
  have length : ((Fragment.styledChars (StyledRange.fragments text ranges)).length : Int) =
      text.length := by
    rw [← List.length_map Prod.snd,
      StyledRange.map_snd_styledChars_fragments h (Int.le_refl 0) (Int.le_refl _),
      List.length_drop, List.length_take, String.length_toList]
    omega
  have shown : Fragment.htmlOf parts.inside = "" ↔ lo = hi := by
    rw [Fragment.htmlOf_eq_empty_iff, (MarkedText.styledChars_of text ranges hlo hle).2.1,
      ← List.length_eq_zero_iff, List.length_drop, List.length_take]
    omega
  unfold markSpan
  rw [if_pos ⟨hlo, hle, hhi⟩]
  by_cases heq : lo = hi
  · rw [if_pos heq, if_pos heq, if_pos (shown.2 heq)]
  · rw [if_neg heq, if_neg heq, if_neg (mt shown.1 heq)]

/-- In a covered text every span that lies in it can be marked. -/
theorem exists_markSpan {text : String} {ranges : List StyledRange}
    (h : StyledRange.Tile 0 text.length ranges) {lo hi : Int} (hlo : 0 ≤ lo) (hle : lo ≤ hi)
    (hhi : hi ≤ text.length) (style : String) :
    ∃ markup, markSpan text ranges lo hi style = .ok markup :=
  ⟨_, markSpan_eq h hlo hle hhi style⟩

end TraceLens
