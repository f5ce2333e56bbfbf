import TraceLens.Pane.Source
import TraceLens.Proofs.Highlight.Cover
import TraceLens.Proofs.Source.Mark

/-!
# Source panes and what the cache has seen

The panes of a position are the panes of the regions of its chain, each as if it stood alone in
front of a new cache, whatever has been looked up and rendered before, and whether that failed.

Main statements: `panes_ofRegions` takes the panes of a chain apart, `Reachable.answersAsNew` is
about all that a cache answers, and `sourcePane_independent` says what comes of a chain. It needs
each text to be highlighted in full and each file either to have a text or to be reported as one
that has none; `sourcePane_hexScript` is a chain where a file is neither.
-/

namespace TraceLens

namespace HighlightCache

/-- The caches that texts and panes of one highlighter have gone through, from any sources and with
any outcome. -/
inductive Visited (highlight : Highlighter) : HighlightCache → Prop
  | empty : Visited highlight {}
  | lookUp {c : HighlightCache} (text : String) (visited : Visited highlight c) :
      Visited highlight (c.getOrCompute highlight text).2
  | render {c : HighlightCache} {context : PaneContext} (same : context.highlight = highlight)
      (body : Body) (position : Position) (visited : Visited highlight c) :
      Visited highlight (sourcePane context c body position).cache

variable {highlight : Highlighter} {c : HighlightCache}

theorem Reachable.ofRegions {context : PaneContext} (regions : List Region)
    (hc : Reachable context.highlight c) :
    Reachable context.highlight (Pane.ofRegions context c regions).cache := by
  induction regions generalizing c with
  | nil => exact hc
  | cons region rest ih =>
    unfold Pane.ofRegions
    split
    · exact ih hc
    · exact hc
    · rename_i text _
      have next := hc.step text
      dsimp only
      split
      · exact next
      · exact ih next

/-- Rendering does to a cache what looking some texts up does. -/
theorem Reachable.render {context : PaneContext} (hc : Reachable context.highlight c)
    (body : Body) (position : Position) :
    Reachable context.highlight (sourcePane context c body position).cache := by
  unfold sourcePane
  split
  · exact hc
  · exact hc.ofRegions _

theorem Visited.reachable (hc : Visited highlight c) : Reachable highlight c := by
  induction hc with
  | empty => exact .empty
  | lookUp text _ ih => exact ih.step text
  | render same body position _ ih =>
    subst same
    exact ih.render body position

end HighlightCache

open HighlightCache

namespace Pane

/-- The pane of a region that stands alone in front of a new cache. -/
def alone (context : PaneContext) (region : Region) : Except Failure Pane :=
  match context.sources.text region.file with
  | .error (.source fault) => .ok (placeholder region fault)
  | .error f => .error f
  | .ok text => context.highlight text >>= Highlighted.ofLines text >>= ofRegion context region

variable {context : PaneContext} {region : Region}

theorem alone_of_source {fault : SourceFault}
    (h : context.sources.text region.file = .error (.source fault)) :
    alone context region = .ok (placeholder region fault) := by
  rw [alone, h]

theorem alone_of_text {text : String} (h : context.sources.text region.file = .ok text) :
    alone context region =
      context.highlight text >>= Highlighted.ofLines text >>= ofRegion context region := by
  rw [alone, h]

/-- The panes of a chain are the panes of its regions. -/
theorem panes_ofRegions {c : HighlightCache} (hc : Reachable context.highlight c)
    (regions : List Region) :
    (ofRegions context c regions).panes = regions.mapM (alone context) := by
  induction regions generalizing c with
  | nil => rfl
  | cons region rest ih =>
    rw [List.mapM_cons]
    unfold ofRegions
    split
    · -- nothing is looked up for a region without a text
      rename_i fault htext
      rw [alone_of_source htext, ← ih hc]
      exact map_eq_pure_bind (m := Except Failure) _ _
    · rename_i f other htext
      have : alone context region = .error f := by
        unfold alone
        rw [htext]
        split <;> simp_all
      rw [this]
      rfl
    · rename_i text htext
      have next := hc.step text
      rw [alone_of_text htext, ← hc.getOrCompute_eq text]
      dsimp only
      split
      · rename_i f hf
        rw [hf]
        rfl
      · rename_i pane hpane
        rw [hpane, ← ih next]
        exact map_eq_pure_bind (m := Except Failure) _ _

/-- The pane of a position whose source is one region that was not expanded from anywhere. -/
theorem panes_of_spanOf {c : HighlightCache} (hc : Reachable context.highlight c) {body : Body}
    {position : Position} (h : body.spanOf position = .ok (.ofRegion region)) :
    (sourcePane context c body position).panes = (fun pane => [pane]) <$> alone context region := by
  have chain : (Span.ofRegion region).chain.reverse = [region] := rfl
  rw [sourcePane, h]
  dsimp only
  rw [chain, panes_ofRegions hc, List.mapM_cons, List.mapM_nil]
  exact (map_eq_pure_bind (m := Except Failure) _ _).symm

end Pane

/-- A cache that cannot be told from a new one by what it answers. -/
structure HighlightCache.AnswersAsNew (c : HighlightCache) (highlight : Highlighter) : Prop where
  entries : ∀ text entry, c.entries.find? text = some entry →
    (({} : HighlightCache).getOrCompute highlight text).1 = .ok entry
  panes : ∀ (context : PaneContext) (body : Body) (position : Position),
    context.highlight = highlight →
      (sourcePane context c body position).panes = (sourcePane context {} body position).panes

theorem HighlightCache.Reachable.answersAsNew {c : HighlightCache} {highlight : Highlighter}
    (hc : c.Reachable highlight) : c.AnswersAsNew highlight where
  entries text entry h := by rw [Reachable.empty.getOrCompute_eq, hc.entry_eq h]
  panes context body position h := by
    subst h
    unfold sourcePane
    split
    · rfl
    · rw [Pane.panes_ofRegions hc, Pane.panes_ofRegions .empty]

/-! ## What comes of a region -/

/-- A highlighter whose fragments are as long as the text, for every text. -/
def Highlighter.Covers (highlight : Highlighter) : Prop :=
  ∀ text, ∃ lines, highlight text = .ok lines ∧ Fragment.totalLength lines.flatten = text.length

/-- A region that is not a stretch of the text of its file. -/
def Region.Misplaced (region : Region) (sources : SourceMap) : Prop :=
  ∃ text, sources.text region.file = .ok text ∧
    ¬(0 ≤ region.lo ∧ region.lo ≤ region.hi ∧ region.hi ≤ text.length)

/-- A file that has a text, or is reported as one that has none. -/
def SourceMap.Answers (sources : SourceMap) (file : String) : Prop :=
  ∀ f, sources.text file = .error f → ∃ fault, f = .source fault

theorem Highlighter.Covers.exists_entry {highlight : Highlighter} (h : highlight.Covers)
    (text : String) : ∃ entry, highlight text >>= Highlighted.ofLines text = .ok entry ∧
      entry.text = text ∧ StyledRange.Tile 0 text.length entry.ranges := by
  obtain ⟨lines, hlines, hlength⟩ := h text
  have tile : StyledRange.Tile 0 text.length (StyledRange.ofFragments 0 lines.flatten) := by
    simpa [hlength] using StyledRange.tile_ofFragments 0 lines.flatten
  refine ⟨⟨text, StyledRange.ofFragments 0 lines.flatten⟩, ?_, rfl, tile⟩
  rw [bind_eq_ok_iff]
  exact ⟨lines, hlines, by simp [Highlighted.ofLines, hlength]⟩

namespace Pane

variable {context : PaneContext} {region : Region}

/-- Alone, a region that is misplaced fails to render. -/
theorem alone_of_misplaced (covers : context.highlight.Covers)
    (h : region.Misplaced context.sources) :
    ∃ fault, alone context region = .error (.render fault) := by
  obtain ⟨text, htext, outside⟩ := h
  obtain ⟨entry, hentry, rfl, -⟩ := covers.exists_entry text
  refine ⟨.spanOutside region.lo region.hi entry.text.length, ?_⟩
  rw [alone_of_text htext, hentry]
  simp only [bind, Except.bind, ofRegion, markSpan, if_neg outside]

theorem exists_alone (covers : context.highlight.Covers)
    (answers : context.sources.Answers region.file) (h : ¬region.Misplaced context.sources) :
    ∃ pane, alone context region = .ok pane := by
  cases htext : context.sources.text region.file with
  | error f =>
    obtain ⟨fault, rfl⟩ := answers f htext
    exact ⟨_, alone_of_source htext⟩
  | ok text =>
    have within : 0 ≤ region.lo ∧ region.lo ≤ region.hi ∧ region.hi ≤ text.length := by
      by_contra outside
      exact h ⟨text, htext, outside⟩
    obtain ⟨entry, hentry, rfl, tile⟩ := covers.exists_entry text
    obtain ⟨markup, hmarkup⟩ :=
      exists_markSpan tile within.1 within.2.1 within.2.2 context.markerStyle
    refine ⟨⟨region.label (some entry.text) context.aliases, markup⟩, ?_⟩
    rw [alone_of_text htext, hentry]
    simp only [bind, Except.bind, ofRegion, hmarkup]
    rfl

/-- What the pane of a region is in any chain: the only one where the region is rendered by itself,
with a cache of any history, and a placeholder where the region has no text. -/
structure IsOf (context : PaneContext) (region : Region) (pane : Pane) : Prop where
  alone : ∀ c body position, Visited context.highlight c →
    body.spanOf position = .ok (.ofRegion region) →
      (sourcePane context c body position).panes = .ok [pane]
  unavailable : ∀ fault, context.sources.text region.file = .error (.source fault) →
    pane.label = region.text ∧ pane.markup = Html.escape fault.message

theorem isOf_of_alone {pane : Pane} (h : Pane.alone context region = .ok pane) :
    IsOf context region pane := by
  constructor
  · intro c body position hc hspan
    rw [panes_of_spanOf hc.reachable hspan, h]
    rfl
  · intro fault hfault
    obtain rfl := Except.ok.inj ((alone_of_source hfault).symm.trans h)
    exact ⟨rfl, rfl⟩

end Pane

/-! ## What comes of a chain -/

section Chain

variable {context : PaneContext} {c d : HighlightCache} {body : Body} {position : Position}

theorem panes_sourcePane (hc : Visited context.highlight c) {span : Span}
    (hspan : body.spanOf position = .ok span) :
    (sourcePane context c body position).panes =
      span.chain.reverse.mapM (Pane.alone context) := by
  rw [sourcePane, hspan]
  exact Pane.panes_ofRegions hc.reachable _

/-- The panes of a position do not depend on what the cache has been through, and do not affect each
other: they fail to render if a region is misplaced, and otherwise each is what it is alone. -/
theorem sourcePane_independent (covers : context.highlight.Covers)
    (hc : Visited context.highlight c) (hd : Visited context.highlight d) {span : Span}
    (hspan : body.spanOf position = .ok span)
    (answers : ∀ region ∈ span.chain, context.sources.Answers region.file) :
    (sourcePane context c body position).panes = (sourcePane context d body position).panes ∧
    ((∃ region ∈ span.chain, region.Misplaced context.sources) →
      ∃ fault, (sourcePane context c body position).panes = .error (.render fault)) ∧
    ((∀ region ∈ span.chain, ¬region.Misplaced context.sources) →
      ∃ panes, (sourcePane context c body position).panes = .ok panes ∧
        List.Forall₂ (Pane.IsOf context) span.chain.reverse panes) := by
  rw [panes_sourcePane hc hspan, panes_sourcePane hd hspan]
  refine ⟨rfl, ?_, fun placed => ?_⟩
  · rintro ⟨region, hregion, misplaced⟩
    obtain ⟨fault, hfault⟩ := Pane.alone_of_misplaced covers misplaced
    obtain ⟨first, hfirst, f, hf, hchain⟩ :=
      exists_mapM_eq_error ⟨region, List.mem_reverse.2 hregion, _, hfault⟩
    -- only a misplaced region fails, so the first that fails is one
    have outside : first.Misplaced context.sources := by
      by_contra inside
      obtain ⟨pane, hpane⟩ :=
        Pane.exists_alone covers (answers first (List.mem_reverse.1 hfirst)) inside
      rw [hpane] at hf
      cases hf
    obtain ⟨fault', hfault'⟩ := Pane.alone_of_misplaced covers outside
    obtain rfl := Except.error.inj (hf.symm.trans hfault')
    exact ⟨fault', hchain⟩
  · obtain ⟨panes, hpanes⟩ := exists_mapM_eq_ok fun region hregion =>
      Pane.exists_alone covers (answers region (List.mem_reverse.1 hregion))
        (placed region (List.mem_reverse.1 hregion))
    exact ⟨panes, hpanes, (mapM_eq_ok_iff.1 hpanes).imp fun _ _ => Pane.isOf_of_alone⟩

end Chain

/-- A highlighter without any styles. -/
def plainHighlighter : Highlighter := fun text => .ok [[⟨{}, text⟩]]

theorem plainHighlighter_covers : plainHighlighter.Covers := fun text =>
  ⟨[[⟨{}, text⟩]], rfl, rfl⟩

/-- A script whose first line declares an encoding that gives no text, and another script. -/
def hexScript : SourceMap where
  texts := .ofList [("main.py", "k = 1\n")]
  disk := .ofList [("hex.py", Utf8.encode "# coding: hex\nx = 1\n")]

/-- A body that was expanded from `main.py`. -/
def expandedBody (file : String) : Body where
  blocks := []
  span := { file, lo := 0, hi := 3, callSites := [⟨"main.py", 0, 1⟩] }

/-- One file that cannot be decoded, and no region that is misplaced, may leave no pane at all. -/
theorem sourcePane_hexScript :
    let context : PaneContext := ⟨hexScript, plainHighlighter, {}, ""⟩
    (∀ region ∈ (expandedBody "hex.py").span.chain, ¬region.Misplaced context.sources) ∧
      (sourcePane context {} (expandedBody "hex.py") .unwinding).panes =
        .error (.charset .notText) := by
  intro context
  have hex : hexScript.text "hex.py" = .error (.charset .notText) := by decide +kernel
  have main : hexScript.text "main.py" = .ok "k = 1\n" := by decide +kernel
  refine ⟨?_, by decide +kernel⟩
  simp only [expandedBody, Span.chain, List.mem_cons, List.not_mem_nil, or_false,
    forall_eq_or_imp, forall_eq]
  constructor
  · rintro ⟨text, htext, -⟩
    rw [show context.sources = hexScript from rfl, hex] at htext
    cases htext
  · rintro ⟨text, htext, outside⟩
    rw [show context.sources = hexScript from rfl, main] at htext
    obtain rfl := Except.ok.inj htext
    exact outside (by decide)

/-- A chain with a file that has no text, in front of a new cache and of one that has failed. -/
theorem sourcePane_independent_gone :
    let context : PaneContext := ⟨hexScript, plainHighlighter, {}, ""⟩
    let used := (sourcePane context {} (expandedBody "hex.py") .unwinding).cache
    context.highlight.Covers ∧ Visited context.highlight used ∧
      (∀ region ∈ (expandedBody "gone.py").span.chain, context.sources.Answers region.file) ∧
      (sourcePane context used (expandedBody "gone.py") .unwinding).panes =
        (sourcePane context {} (expandedBody "gone.py") .unwinding).panes ∧
      ∃ panes, (sourcePane context used (expandedBody "gone.py") .unwinding).panes = .ok panes ∧
        List.Forall₂ (Pane.IsOf context) (expandedBody "gone.py").span.chain.reverse panes := by
  intro context used
  have gone : hexScript.text "gone.py" = .error (.source (.unreadable "gone.py")) := by
    decide +kernel
  have main : hexScript.text "main.py" = .ok "k = 1\n" := by decide +kernel
  have visited : Visited context.highlight used := .render rfl _ _ .empty
  have answers : ∀ region ∈ (expandedBody "gone.py").span.chain,
      context.sources.Answers region.file := by
    simp only [expandedBody, Span.chain, List.mem_cons, List.not_mem_nil, or_false,
      forall_eq_or_imp, forall_eq]
    refine ⟨fun f hf => ⟨_, Except.error.inj (hf.symm.trans gone)⟩, fun f hf => ?_⟩
    have := hf.symm.trans main
    cases this
  have placed : ∀ region ∈ (expandedBody "gone.py").span.chain,
      ¬region.Misplaced context.sources := by
    simp only [expandedBody, Span.chain, List.mem_cons, List.not_mem_nil, or_false,
      forall_eq_or_imp, forall_eq]
    constructor
    · rintro ⟨text, htext, -⟩
      have := htext.symm.trans gone
      cases this
    · rintro ⟨text, htext, outside⟩
      obtain rfl := Except.ok.inj (htext.symm.trans main)
      exact outside (by decide)
  have span : (expandedBody "gone.py").spanOf .unwinding = .ok (expandedBody "gone.py").span := rfl
  obtain ⟨same, -, panes⟩ :=
    sourcePane_independent plainHighlighter_covers visited .empty span answers
  exact ⟨plainHighlighter_covers, visited, answers, same, panes placed⟩

end TraceLens
