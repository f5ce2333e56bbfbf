import TraceLens.Proofs.Highlight.LookUps
import TraceLens.Proofs.Pane.History
import TraceLens.Proofs.Source.Marking

/-!
# What source panes show

Whatever characters a text and the label of its pane hold, the markup of the panes shows them as
they are: the label, and after it the text, with the glyph in it where an empty region is marked.

Main statement: `shownText_panesHtml` reads the panes of a chain back, in their order.
-/

namespace TraceLens

/-! ## Colors -/

/-- A style whose color ends no tag. -/
def TextStyle.Harmless (style : TextStyle) : Prop := ∀ color ∈ style.color, '>' ∉ color.toList

/-- Styles whose colors end no tag. -/
structure StyleTable.Harmless (styles : StyleTable) : Prop where
  default : styles.default.Harmless
  kinds : ∀ kind style, styles.style? kind = some style → style.Harmless

theorem Theme.harmless_of_mem_palette (t : Theme) : ∀ s ∈ t.palette, s.style.Harmless := by
  have colors : ∀ s ∈ t.palette, ∀ color ∈ s.style.color, '>' ∉ color.toList := by
    cases t <;> decide
  exact colors

theorem Theme.harmless_style? {t : Theme} {kind : String} {style : TextStyle}
    (h : Palette.style? t.palette kind = some style) : style.Harmless := by
  obtain ⟨s, hs, rfl⟩ := Option.map_eq_some_iff.1 h
  exact t.harmless_of_mem_palette s (List.mem_of_find?_eq_some hs)

/-- The colors of all themes are harmless. -/
theorem Theme.styleTable_harmless (t : Theme) : t.styleTable.Harmless where
  default := by
    change ((Palette.style? t.palette "Text").getD {}).Harmless
    cases h : Palette.style? t.palette "Text" with
    | none => exact fun color hcolor => nomatch hcolor
    | some style => exact Theme.harmless_style? h
  kinds kind style h := Theme.harmless_style? h

namespace Fragment

variable {styles : StyleTable}

/-- Tokens are shown in the styles of their table. -/
theorem harmless_ofTokensFrom (h : styles.Harmless) {size pos : Nat} {rest : List Char}
    {tokens : List Token} {fs : List Fragment}
    (hfs : ofTokensFrom styles size pos rest tokens = .ok fs) : ∀ f ∈ fs, f.style.Harmless := by
  induction tokens generalizing pos rest fs with
  | nil =>
    obtain rfl := Except.ok.inj hfs
    intro f hf
    split at hf
    · cases hf
    · obtain rfl := List.mem_singleton.1 hf
      exact h.default
  | cons t tokens ih =>
    unfold ofTokensFrom at hfs
    dsimp only at hfs
    split at hfs
    · exact ih hfs
    · split at hfs
      · cases hfs
      · rename_i style hstyle
        obtain ⟨more, hmore, hfs⟩ := bind_eq_ok_iff.1 hfs
        obtain rfl := pure_eq_ok_iff.1 hfs
        intro f hf
        rcases List.mem_append.1 hf with hgap | hf
        · split at hgap
          · obtain rfl := List.mem_singleton.1 hgap
            exact h.default
          · cases hgap
        · rcases List.mem_cons.1 hf with rfl | hf
          · exact h.kinds _ _ hstyle
          · exact ih hmore f hf

theorem harmless_highlightLines {scan : Scanner} {text : String} {lines : List (List Fragment)}
    (h : styles.Harmless) (hlines : highlightLines scan styles text = .ok lines) :
    ∀ f ∈ lines.flatten, f.style.Harmless := by
  unfold highlightLines at hlines
  cases hfs : ofTokens styles text (scan text) with
  | error f =>
    rw [hfs] at hlines
    cases hlines
  | ok fs =>
    rw [hfs] at hlines
    obtain rfl := Except.ok.inj hlines
    rw [flatten_toLines]
    intro f hf
    obtain ⟨g, hg, hpiece⟩ := List.mem_flatMap.1 hf
    obtain ⟨piece, -, rfl⟩ := List.mem_map.1 hpiece
    exact harmless_ofTokensFrom h hfs g hg

end Fragment

/-- The ranges of fragments have their styles. -/
theorem StyledRange.exists_fragment {start : Nat} {fs : List Fragment} {r : StyledRange}
    (hr : r ∈ ofFragments start fs) : ∃ f ∈ fs, f.style = r.style := by
  induction fs generalizing start with
  | nil => cases hr
  | cons f fs ih =>
    unfold ofFragments at hr
    split at hr
    · obtain ⟨g, hg, hstyle⟩ := ih hr
      exact ⟨g, List.mem_cons_of_mem _ hg, hstyle⟩
    · rcases List.mem_cons.1 hr with rfl | hr
      · exact ⟨f, List.mem_cons_self, rfl⟩
      · obtain ⟨g, hg, hstyle⟩ := ih hr
        exact ⟨g, List.mem_cons_of_mem _ hg, hstyle⟩

theorem Highlighted.harmless_of_ofLines {scan : Scanner} {styles : StyleTable} {text : String}
    {entry : Highlighted} (h : styles.Harmless)
    (hentry : highlightLines scan styles text >>= ofLines text = .ok entry) :
    ∀ r ∈ entry.ranges, r.style.Harmless := by
  obtain ⟨lines, hlines, hentry⟩ := bind_eq_ok_iff.1 hentry
  have ranges : entry.ranges = StyledRange.ofFragments 0 lines.flatten := by
    unfold ofLines at hentry
    dsimp only at hentry
    split at hentry
    · rw [← Except.ok.inj hentry]
    · cases hentry
  intro r hr
  obtain ⟨f, hf, hstyle⟩ := StyledRange.exists_fragment (ranges ▸ hr)
  exact hstyle ▸ Fragment.harmless_highlightLines h hlines f hf

/-! ## Panes -/

/-- A text with the glyph in it where a region of it is empty. -/
def Region.shownIn (region : Region) (text : String) : List Char :=
  if region.lo = region.hi then
    text.toList.take region.lo.toNat ++ markerGlyph.toList ++ text.toList.drop region.lo.toNat
  else text.toList

/-- Marking a region adds nothing else to what is shown. -/
theorem leaves_markSpan {text : String} {ranges : List StyledRange}
    (tile : StyledRange.Tile 0 text.length ranges) (colors : ∀ r ∈ ranges, r.style.Harmless)
    {region : Region} {style : String} (hstyle : '>' ∉ style.toList) {markup : String}
    (h : markSpan text ranges region.lo region.hi style = .ok markup) :
    Html.Leaves markup.toList (region.shownIn text) := by
  by_cases within : 0 ≤ region.lo ∧ region.lo ≤ region.hi ∧ region.hi ≤ text.length
  · obtain ⟨hlo, hle, hhi⟩ := within
    rw [markSpan_eq tile hlo hle hhi] at h
    obtain rfl := Except.ok.inj h
    obtain ⟨before, inside, after⟩ := MarkedText.shows_of tile colors hlo hle
    unfold Region.shownIn
    split
    · rename_i heq
      have glyph : Html.Shows markerGlyph.toList markerGlyph.toList := .char '←'
      have marked := leaves_marked hstyle before glyph after
      rw [← heq] at marked ⊢
      simpa using marked
    · have marked := leaves_marked hstyle before inside after
      have parts : text.toList.take region.lo.toNat ++
          (text.toList.take region.hi.toNat).drop region.lo.toNat ++
            text.toList.drop region.hi.toNat = text.toList := by
        have := drop_take_append_drop_take text.toList (Nat.zero_le region.lo.toNat)
          (show region.lo.toNat ≤ region.hi.toNat by omega)
        rw [List.drop_zero, List.drop_zero] at this
        rw [this, List.take_append_drop]
      rw [parts] at marked
      simpa using marked
  · rw [markSpan, if_neg within] at h
    cases h

namespace Pane

/-- What the pane of a region shows: its label, and after it its text or why it has none. -/
def shownOf (context : PaneContext) (region : Region) : List Char :=
  match context.sources.text region.file with
  | .ok text => (region.label (some text) context.aliases).toList ++ region.shownIn text
  | .error (.source fault) => region.text.toList ++ fault.message.toList
  | .error _ => []

theorem leaves_html {pane : Pane} {cs : List Char} (h : Html.Leaves pane.markup.toList cs) :
    Html.Leaves pane.html.toList (pane.label.toList ++ cs) := by
  have opening : Html.Leaves "<span style=\"color: aqua;\">".toList [] :=
    .of_tag (show '>' ∉ "span style=\"color: aqua;\"".toList by simp) (by simp)
  have label : Html.Leaves (Html.escape pane.label).toList pane.label.toList := by
    rw [Html.toList_escape]
    exact (Html.Shows.escaped _).leaves
  have lineBreak : Html.Leaves "<br>".toList [] :=
    .of_tag (show '>' ∉ "br".toList by decide) rfl
  have afterLabel : Html.Leaves "<br></span>".toList [] :=
    lineBreak.append (.of_tag (show '>' ∉ "/span".toList by decide) rfl)
  have afterText : Html.Leaves "<br><br>".toList [] := lineBreak.append lineBreak
  have parts (a e b m c : String) : (a ++ e ++ b ++ m ++ c).toList =
      a.toList ++ (e.toList ++ b.toList) ++ (m.toList ++ c.toList) := by
    simp only [String.toList_append, List.append_assoc]
  unfold html
  rw [parts]
  exact (opening.opened (label.closed afterLabel)).append (h.closed afterText)

variable {context : PaneContext} {scan : Scanner} {styles : StyleTable}

theorem leaves_alone (highlight : context.highlight = highlightLines scan styles)
    (colors : styles.Harmless) (marker : '>' ∉ context.markerStyle.toList) {region : Region}
    {pane : Pane} (h : alone context region = .ok pane) :
    Html.Leaves pane.html.toList (shownOf context region) := by
  unfold alone at h
  unfold shownOf
  split at h
  · rename_i fault htext
    obtain rfl := Except.ok.inj h
    rw [htext]
    refine leaves_html ?_
    rw [placeholder, Html.toList_escape]
    exact (Html.Shows.escaped _).leaves
  · cases h
  · rename_i text htext
    rw [htext]
    obtain ⟨entry, hentry, h⟩ := bind_eq_ok_iff.1 h
    obtain ⟨markup, hmarkup, h⟩ := bind_eq_ok_iff.1 h
    obtain rfl := pure_eq_ok_iff.1 h
    have ranges : ∀ r ∈ entry.ranges, r.style.Harmless := by
      rw [highlight] at hentry
      exact Highlighted.harmless_of_ofLines colors hentry
    obtain ⟨lines, -, hlines⟩ := bind_eq_ok_iff.1 hentry
    obtain ⟨rfl, tile⟩ := Highlighted.covers_of_ofLines hlines
    exact leaves_html (leaves_markSpan tile ranges marker hmarkup)

/-- Panes stand in two elements, of which the second one has a style. -/
theorem exists_panesHtml_eq {background : Option String}
    (harmless : ∀ color ∈ background, '>' ∉ color.toList) (panes : List Pane) :
    ∃ style : String, '>' ∉ style.toList ∧ panesHtml panes background =
      "<pre><code id=\"the_code\" style=\"" ++ style ++ "\">" ++
        String.join (panes.map html) ++ "</code></pre>" := by
  cases background with
  | none => exact ⟨"", by simp, rfl⟩
  | some color =>
    have := harmless color rfl
    refine ⟨if color = "" then "" else "background-color: " ++ color ++ "; display: block;",
      ?_, rfl⟩
    split <;> simp [this]

/-- The panes of some regions show them one after the other. -/
theorem shownText_panesHtml (highlight : context.highlight = highlightLines scan styles)
    (colors : styles.Harmless) (marker : '>' ∉ context.markerStyle.toList)
    {background : Option String} (harmless : ∀ color ∈ background, '>' ∉ color.toList)
    {regions : List Region} {panes : List Pane}
    (h : List.Forall₂ (fun region pane => alone context region = .ok pane) regions panes) :
    Html.shownText (panesHtml panes background).toList = regions.flatMap (shownOf context) := by
  have all : Html.Leaves (panes.flatMap fun pane => pane.html.toList)
      (regions.flatMap (shownOf context)) := by
    rw [List.flatMap_def, List.flatMap_def]
    refine .flatten ?_
    rw [List.forall₂_map_left_iff, List.forall₂_map_right_iff]
    exact h.flip.imp fun _ _ hpane => leaves_alone highlight colors marker hpane
  obtain ⟨style, hstyle, hhtml⟩ := exists_panesHtml_eq harmless panes
  have opening : Html.Leaves
      ("<pre><code id=\"the_code\" style=\"".toList ++ (style.toList ++ "\">".toList)) [] := by
    have pre : Html.Leaves "<pre>".toList [] :=
      .of_tag (show '>' ∉ "pre".toList by decide) rfl
    have code : Html.Leaves
        ('<' :: ("code id=\"the_code\" style=\"".toList ++ style.toList ++ ['"']) ++ ['>']) [] :=
      .of_tag (by simp [hstyle]) rfl
    have both := pre.opened code
    simpa using both
  have closing : Html.Leaves "</code></pre>".toList [] :=
    Html.Leaves.opened (.of_tag (show '>' ∉ "/code".toList by decide) rfl)
      (.of_tag (show '>' ∉ "/pre".toList by decide) rfl)
  have parts (a e b m c : String) : (a ++ e ++ b ++ m ++ c).toList =
      a.toList ++ (e.toList ++ b.toList) ++ (m.toList ++ c.toList) := by
    simp only [String.toList_append, List.append_assoc]
  have text : (String.join (panes.map html)).toList =
      panes.flatMap fun pane => pane.html.toList := by
    rw [String.toList_join, List.flatMap_map]
  rw [hhtml, parts, text]
  exact (opening.opened (all.closed closing)).shownText_eq

end Pane

end TraceLens
