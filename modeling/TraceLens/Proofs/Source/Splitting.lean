import TraceLens.Proofs.Source.Mark

/-!
# Splitting styled fragments

A split leaves the fragments on both sides of an index as they are, except for one that the index
lies inside of. In ranges that follow one another through a text, the parts before, inside and after
a span are those of the text, and every character keeps the style of its range.

Main statements: `splits_splitAt` and `MarkedText.carries_of`, which `splits_and_carries` puts
together.
-/

namespace TraceLens

namespace Fragment

/-- Two lists of fragments make up a third one that was cut between two fragments, or inside a
single one of them. -/
inductive CutOnce : List Fragment → List Fragment → List Fragment → Prop
  | between (before after : List Fragment) : CutOnce (before ++ after) before after
  | inside (before after : List Fragment) (style : TextStyle) {left right : String}
      (some_left : left ≠ "") (some_right : right ≠ "") :
      CutOnce (before ++ ⟨style, left ++ right⟩ :: after) (before ++ [⟨style, left⟩])
        (⟨style, right⟩ :: after)

theorem CutOnce.cons {fs before after : List Fragment} (h : CutOnce fs before after)
    (f : Fragment) : CutOnce (f :: fs) (f :: before) after := by
  cases h with
  | between before after => exact .between (f :: before) after
  | inside before after style hleft hright => exact .inside (f :: before) after style hleft hright

/-- A split cuts the first fragment that goes on past the index, and no other. -/
theorem cutOnce_splitAt (fs : List Fragment) (index : Int) :
    CutOnce fs (splitAt fs index).1 (splitAt fs index).2 := by
  fun_induction splitAt fs index with
  | case1 => exact .between [] []
  | case2 f fs => exact .between [] (f :: fs)
  | case3 f fs index _ _ before after hsplit ih =>
    rw [hsplit] at ih
    exact ih.cons f
  | case4 f fs index hpos hlen chars =>
    have inside : 0 < index.toNat ∧ index.toNat < chars.length := by
      rw [String.length_toList]
      omega
    have whole : f.text = String.ofList (chars.take index.toNat) ++
        String.ofList (chars.drop index.toNat) := by
      rw [← String.ofList_append, List.take_append_drop, String.ofList_toList]
    have nonempty {cs : List Char} (h : 0 < cs.length) : String.ofList cs ≠ "" := by
      rw [Ne, ← String.toList_eq_nil_iff, String.toList_ofList]
      exact List.ne_nil_of_length_pos h
    have left : 0 < (chars.take index.toNat).length := by
      rw [List.length_take]
      omega
    have right : 0 < (chars.drop index.toNat).length := by
      rw [List.length_drop]
      omega
    have cut := CutOnce.inside [] fs f.style (nonempty left) (nonempty right)
    rwa [← whole] at cut

/-- Two lists of fragments are a third one, split at an index. The index counts characters, and one
outside of the fragments goes to the nearer end. -/
structure Splits (fs : List Fragment) (index : Int) (parts : List Fragment × List Fragment) :
    Prop where
  before : styledChars parts.1 =
    (styledChars fs).take (min (max index 0) (totalLength fs)).toNat
  after : styledChars parts.2 =
    (styledChars fs).drop (min (max index 0) (totalLength fs)).toNat
  once : CutOnce fs parts.1 parts.2

theorem splits_splitAt (fs : List Fragment) (index : Int) : Splits fs index (splitAt fs index) := by
  obtain ⟨before, after⟩ := styledChars_splitAt fs index
  have length := length_styledChars fs
  rcases Int.le_total index (totalLength fs) with within | past
  · have place : (min (max index 0) (totalLength fs)).toNat = index.toNat := by omega
    exact ⟨place ▸ before, place ▸ after, cutOnce_splitAt fs index⟩
  · have place : (min (max index 0) (totalLength fs)).toNat = totalLength fs := by omega
    refine ⟨?_, ?_, cutOnce_splitAt fs index⟩
    · rw [before, place, List.take_of_length_le (by omega), List.take_of_length_le (by omega)]
    · rw [after, place, List.drop_eq_nil_of_le (by omega), List.drop_eq_nil_of_le (by omega)]

end Fragment

namespace MarkedText

/-- The parts of a text around a span hold its characters before, inside and after the span, each
with the style of its position. -/
structure Carries (parts : MarkedText) (text : String) (style : Int → TextStyle) (lo hi : Int) :
    Prop where
  before : Fragment.styledChars parts.before = painted style 0 (text.toList.take lo.toNat)
  inside : Fragment.styledChars parts.inside =
    painted style lo ((text.toList.take hi.toNat).drop lo.toNat)
  after : Fragment.styledChars parts.after = painted style hi (text.toList.drop hi.toNat)

theorem carries_of {text : String} {ranges : List StyledRange}
    (h : StyledRange.Follow 0 text.length ranges) {lo hi : Int} (hlo : 0 ≤ lo) (hle : lo ≤ hi) :
    (MarkedText.of text ranges lo hi).Carries text (StyledRange.styleAt ranges) lo hi := by
  have all : Fragment.styledChars (StyledRange.fragments text ranges) =
      painted (StyledRange.styleAt ranges) 0 text.toList := by
    rw [StyledRange.styledChars_fragments h (Int.le_refl 0) (Int.le_refl _)
      fun r hr p hstart hstop => h.styleAt_eq hr hstart hstop]
    simp [← String.length_toList]
  have place {i : Int} (hi : 0 ≤ i) : (0 : Int) + i.toNat = i := by omega
  obtain ⟨before, inside, after⟩ := styledChars_of text ranges hlo hle
  rw [all] at before inside after
  constructor
  · rw [before, take_painted]
  · rw [inside, take_painted, drop_painted, place hlo]
  · rw [after, drop_painted, place (Int.le_trans hlo hle)]

end MarkedText

/-- A split keeps every styled character on its side and cuts one fragment at most. So the parts of
a text around a span are its own stretches, in the styles that it has there. -/
theorem splits_and_carries :
    (∀ (fs : List Fragment) (index : Int), Fragment.Splits fs index (Fragment.splitAt fs index)) ∧
    ∀ (text : String) (ranges : List StyledRange) (lo hi : Int),
      StyledRange.Follow 0 text.length ranges → 0 ≤ lo → lo ≤ hi → hi ≤ text.length →
      (MarkedText.of text ranges lo hi).Carries text (StyledRange.styleAt ranges) lo hi :=
  ⟨Fragment.splits_splitAt, fun _ _ _ _ follow hlo hle _ =>
    MarkedText.carries_of follow hlo hle⟩

/-- A fragment between two empty ones. -/
def edgedFragments : List Fragment := [⟨{ bold := true }, ""⟩, ⟨{}, "ab"⟩, ⟨{}, ""⟩]

/-- Styles for a text of seven characters, one of them for none. -/
def idleRanges : List StyledRange :=
  [⟨{ bold := true }, 0, 2⟩, ⟨{ italic := true }, 2, 2⟩, ⟨{}, 2, 7⟩]

/-- A split past an empty fragment into the one behind it, and a span across two ranges. -/
theorem splits_and_carries_idleRanges :
    Fragment.splitAt edgedFragments 1 =
        ([⟨{ bold := true }, ""⟩, ⟨{}, "a"⟩], [⟨{}, "b"⟩, ⟨{}, ""⟩]) ∧
      Fragment.Splits edgedFragments 1 (Fragment.splitAt edgedFragments 1) ∧
      StyledRange.Follow 0 "if x:\n\n".length idleRanges ∧
      (0 : Int) ≤ 1 ∧ (1 : Int) ≤ 4 ∧ (4 : Int) ≤ "if x:\n\n".length ∧
      (MarkedText.of "if x:\n\n" idleRanges 1 4).Carries "if x:\n\n"
        (StyledRange.styleAt idleRanges) 1 4 ∧
      painted (StyledRange.styleAt idleRanges) 1 "f x".toList =
        [({ bold := true }, 'f'), ({}, ' '), ({}, 'x')] := by
  have follow : StyledRange.Follow 0 "if x:\n\n".length idleRanges :=
    ⟨rfl, by decide, rfl, by decide, rfl, by decide, rfl⟩
  have within : (4 : Int) ≤ "if x:\n\n".length := by decide
  obtain ⟨splits, carries⟩ := splits_and_carries
  exact ⟨by decide, splits _ _, follow, by decide, by decide, within,
    carries _ _ 1 4 follow (by decide) (by decide) within, by decide⟩

end TraceLens
