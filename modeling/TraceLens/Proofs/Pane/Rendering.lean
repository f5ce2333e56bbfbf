import Mathlib.Data.List.Infix
import TraceLens.Pane.Graph
import TraceLens.Pane.Source
import TraceLens.Proofs.Bytecode.Keeping
import TraceLens.Proofs.Recorder.Snapshots
import TraceLens.Proofs.Source.Mark
import TraceLens.Proofs.Text.Utf8

/-!
# Rendering what was recorded

Each snapshot of a run has both of its panes, whatever the run was and whatever positions its code
claims to have.

Main statements: `exists_sourcePane` for a position whose source lies in its text, and
`exists_graphPane` for the place of a statement or of a terminator.
-/

namespace TraceLens

open Bytecode

/-! ## The source pane -/

/-- A region of a covered text has a pane. -/
theorem Pane.exists_ofRegion {entry : Highlighted} {text : String} {styles : StyleTable}
    {tokens : List Token} (hcovers : entry.Covers text styles tokens) {region : Region}
    {file : String} (within : region.Within file text.length) (context : PaneContext) :
    ∃ pane, Pane.ofRegion context region entry = .ok pane := by
  obtain ⟨markup, hmarkup⟩ := exists_markSpan hcovers.tile within.lo_nonneg within.lo_le_hi
    within.hi_le context.markerStyle
  rw [← hcovers.text_eq] at hmarkup
  exact exists_bind_eq_ok ⟨markup, hmarkup⟩ fun _ _ => ⟨_, rfl⟩

/-- A position whose source lies in the text of its file has one pane. -/
theorem exists_sourcePane {context : PaneContext} {scan : Scanner} {styles : StyleTable}
    {source file : String} (highlight_eq : context.highlight = highlightLines scan styles)
    (known : ∀ t ∈ scan source, (styles.style? t.kind).isSome)
    (text : context.sources.text file = .ok source) {cache : HighlightCache}
    (hc : cache.Reachable context.highlight) {body : Body} {position : Position} {span : Span}
    (hspan : body.spanOf position = .ok span) (within : span.Within file source.length) :
    ∃ pane, (sourcePane context cache body position).panes = .ok [pane] := by
  obtain ⟨entry, hentry, hcovers⟩ := exists_covers known
  rw [← highlight_eq, ← hc.getOrCompute_eq] at hentry
  obtain ⟨pane, hpane⟩ := Pane.exists_ofRegion hcovers within.toWithin context
  have chain : span.chain.reverse = [span.toRegion] := by simp [Span.chain, within.callSites_eq]
  have step : (cache.getOrCompute context.highlight source).1 >>=
      Pane.ofRegion context span.toRegion = .ok pane := by
    rw [hentry]
    exact hpane
  refine ⟨pane, ?_⟩
  simp only [sourcePane, hspan, chain, Pane.ofRegions, within.file_eq, text, step]
  rfl

/-! ## The graph pane -/

theorem Ending.exists_head {e : Ending} (h : e ≠ .unspecified) : ∃ head, e.head = .ok head := by
  cases e with
  | unspecified => exact absurd rfl h
  | drop place target cleanup replacement => cases replacement <;> exact ⟨_, rfl⟩
  | call function arguments place target cleanup => cases place <;> exact ⟨_, rfl⟩
  | _ => exact ⟨_, rfl⟩

namespace Body

variable {body : Body}

/-- A body whose blocks all say how they end can be drawn. -/
theorem exists_digraph (h : ∀ b ∈ body.blocks, b.terminator.ending ≠ .unspecified)
    (breakpoints : Breakpoints) (font : String) :
    ∃ graph, body.digraph breakpoints font = .ok graph := by
  refine exists_bind_eq_ok (exists_mapM_eq_ok fun p hp => ?_) fun nodes _ => ⟨_, rfl⟩
  obtain ⟨block, n⟩ := p
  obtain ⟨head, hhead⟩ := Ending.exists_head (h block (List.fst_mem_of_mem_zipIdx hp))
  refine exists_bind_eq_ok ?_ fun label _ => ⟨_, rfl⟩
  exact exists_bind_eq_ok ⟨head, hhead⟩ fun _ _ => ⟨_, rfl⟩

/-- The place of a statement or of a terminator can be overlaid. -/
theorem exists_overlay {l : Location} {block : Block} (hb : body.block? l.block = .ok block)
    (low : 0 ≤ l.statement) (high : l.statement ≤ block.statements.length) (rowColor : String) :
    ∃ overlay, body.overlay l rowColor = .ok overlay := by
  refine exists_bind_eq_ok ⟨block, hb⟩ fun block' hb' => ?_
  obtain rfl : block = block' := Except.ok.inj (hb.symm.trans hb')
  refine exists_bind_eq_ok ?_ fun row _ => exists_bind_eq_ok ?_ fun roles _ => ⟨_, rfl⟩
  · cases hrow : block.rowOf l.statement with
    | ok row => exact ⟨row, rfl⟩
    | error f =>
      obtain ⟨houtside, -⟩ := Block.rowOf_error_iff.1 hrow
      omega
  · exact exists_bind_eq_ok ⟨block, hb⟩ fun _ _ => ⟨_, rfl⟩

end Body

theorem exists_fromFirst? {mark cs : List Char} (hne : mark ≠ []) (h : mark <:+: cs) :
    ∃ rest, fromFirst? mark cs = some rest := by
  induction cs with
  | nil => exact absurd (List.infix_nil.1 h) hne
  | cons c cs ih =>
    unfold fromFirst?
    by_cases front : mark <+: c :: cs
    · exact ⟨c :: cs, by simp [front]⟩
    · obtain ⟨rest, hrest⟩ := ih ((List.infix_cons_iff.1 h).resolve_left front)
      exact ⟨rest, by simp [front, hrest]⟩

/-- A layout that answers every request with the bytes of a text that holds a picture. -/
def Layouter.Draws (layout : Layouter) : Prop :=
  ∀ request, ∃ text : String, "<svg".toList <:+: text.toList ∧
    (layout request).drawing = .ok (Utf8.encode text)

theorem exists_embedDrawing {text : String} (h : "<svg".toList <:+: text.toList) :
    ∃ markup, embedDrawing (Utf8.encode text) = .ok markup := by
  obtain ⟨rest, hrest⟩ := exists_fromFirst? (by decide) h
  simp only [embedDrawing, Utf8.decode_encode, hrest]
  exact ⟨_, rfl⟩

/-- A body can be shown at a position that it has. -/
theorem exists_graphPane {layout : Layouter} (draws : layout.Draws) {body : Body}
    (hbody : ∀ b ∈ body.blocks, b.terminator.ending ≠ .unspecified) {position : Position}
    (hposition : ∀ l ∈ position.location?, ∃ block, body.block? l.block = .ok block ∧
      0 ≤ l.statement ∧ l.statement ≤ block.statements.length)
    (settings : Settings) (breakpoints : Breakpoints) :
    ∃ markup, (graphPane layout settings body breakpoints (some position)).markup = .ok markup := by
  obtain ⟨graph, hgraph⟩ := body.exists_digraph hbody breakpoints settings.font
  obtain ⟨text, hpicture, hdrawing⟩ :=
    draws { engine := settings.layoutEngine, source := graph.text }
  obtain ⟨picture, hembed⟩ := exists_embedDrawing hpicture
  simp only [graphPane, hgraph, GraphPaneRun.markupOf, hdrawing]
  refine exists_bind_eq_ok ⟨_, rfl⟩ fun drawing hd => ?_
  obtain rfl := Except.ok.inj hd
  refine exists_bind_eq_ok ⟨picture, hembed⟩ fun _ _ => ?_
  cases position with
  | unwinding => exact ⟨_, rfl⟩
  | place l =>
    obtain ⟨block, hb, low, high⟩ := hposition l rfl
    obtain ⟨overlay, hoverlay⟩ := body.exists_overlay hb low high settings.currentRowColor
    exact exists_bind_eq_ok ⟨overlay, hoverlay⟩ fun _ _ => ⟨_, rfl⟩

/-! ## Recorded snapshots -/

namespace Bytecode

variable {code : Code} {g : CodeGraph} {origin : Origin} {length : Nat}

theorem Code.endingOf_ne_unspecified {n : Nat} {group : List Instruction} :
    code.endingOf n group ≠ .unspecified := by
  unfold endingOf
  cases hown : code.ownEnding? n group with
  | none =>
    rw [Option.getD_none, fallThrough]
    split <;> simp
  | some e =>
    obtain ⟨last, -, he⟩ := Option.bind_eq_some_iff.1 hown
    rcases ending?_cases he with ⟨t, -, -, rfl⟩ | ⟨t, label, -, -, -, -, rfl⟩ | ⟨-, rfl⟩ |
      ⟨-, rfl⟩ | ⟨t, arguments, -, -, -, rfl⟩ <;> simp

theorem CodeGraph.Shows.ending_ne_unspecified (hs : g.Shows code origin length) {b : Block}
    (hb : b ∈ g.body.blocks) : b.terminator.ending ≠ .unspecified := by
  obtain ⟨n, hn⟩ := List.getElem?_of_mem hb
  obtain ⟨group, -, hmade⟩ := hs.exists_group hn
  rw [hmade.ending]
  exact Code.endingOf_ne_unspecified

/-- The place that a graph is at is that of a statement or of a terminator. -/
theorem CodeGraph.Shows.exists_block_of_reaches (hs : g.Shows code origin length)
    {position : Position} (reached : g.Reaches position) {l : Location}
    (hl : l ∈ position.location?) : ∃ block, g.body.block? l.block = .ok block ∧
      0 ≤ l.statement ∧ l.statement ≤ block.statements.length := by
  rcases reached with rfl | ⟨offset, l', hl', rfl⟩
  · simp [Position.location?] at hl
  · obtain rfl : l' = l := by simpa [Position.location?] using hl
    obtain ⟨n, group, block, -, hblock, hn, hplace⟩ :=
      hs.mem_values_iff_of_block.1 (mem_values_of_locationFor hl')
    refine ⟨block, by simp [Body.block?, hn, hblock], ?_⟩
    omega

end Bytecode

/-- Every snapshot of a run can be rendered: there is one source pane, from a cache of any age, and
a graph pane in every layout that draws. -/
theorem exists_panes_of_mem_snapshots {r : Recorder} {session : Session} {source : String}
    (regular : ∀ code ∈ session.codes, code.Regular) {snapshot : Snapshot}
    (recorded : snapshot ∈ (r.runScript session source).recorder.snapshots) {scan : Scanner}
    {styles : StyleTable} (known : ∀ t ∈ scan source, (styles.style? t.kind).isSome)
    {cache : HighlightCache} (hc : cache.Reachable (highlightLines scan styles)) (disk : Disk)
    (aliases : Table String String) (markerStyle : String) {layout : Layouter}
    (draws : layout.Draws) (settings : Settings) (breakpoints : Breakpoints) :
    let sources : SourceMap := { texts := .ofList [(r.file, source)], disk }
    let context : PaneContext := ⟨sources, highlightLines scan styles, aliases, markerStyle⟩
    (∃ pane, (sourcePane context cache snapshot.body snapshot.position).panes = .ok [pane]) ∧
      ∃ markup, (graphPane layout settings snapshot.body breakpoints
        (some snapshot.position)).markup = .ok markup := by
  intro sources context
  obtain ⟨n, g, ⟨code, hcode, hfile, hg⟩, hbody, reached⟩ :=
    (r.runScript_traces session source).snapshots snapshot recorded
  have h := regular code (List.mem_of_getElem? hcode)
  obtain ⟨origin, horigin, hs⟩ := shows_of_codeGraph h hg
  obtain ⟨ho, file_eq⟩ := Code.of_origin h horigin
  have file_eq : origin.file = r.file := by
    rw [file_eq, hfile]
    split <;> simp_all
  obtain ⟨span, hspan, within⟩ := hs.exists_spanOf h ho reached
  rw [file_eq] at within
  rw [hbody]
  constructor
  · have text : sources.text r.file = .ok source := SourceMap.text_add_self { disk } r.file source
    exact exists_sourcePane rfl known text hc hspan within
  · exact exists_graphPane draws (fun b hb => hs.ending_ne_unspecified hb)
      (fun l hl => hs.exists_block_of_reaches reached hl) settings breakpoints

/-- A run of the guarded loop that comes to a line and then raises. -/
def loopSession : Session where
  codes := [guardedLoop]
  events := [.line ⟨0, 3, some 1, {}⟩, .exception ⟨0, 2, some 1, {}⟩]

def loopRun : RunResult :=
  Recorder.runScript { file := "loop.src", maxSteps := 10 } loopSession "while f(): pass"

theorem loopRun_records : loopRun.recorder.snapshots ≠ [] := by
  obtain ⟨g, hg⟩ := exists_codeGraph guardedLoop_regular "while f(): pass" "loop.src"
  obtain ⟨origin, -, hs⟩ := shows_of_codeGraph guardedLoop_regular hg
  obtain ⟨l, hl⟩ := hs.exists_locationFor guardedLoop_regular 3
  have own : guardedLoop.file = "loop.src" := rfl
  simp [loopRun, loopSession, Recorder.runScript, RunResult.recorder_of, Recording.replay,
    Recording.step, Recording.onLine, Recording.onException, Recording.record, Recording.setStep,
    Recorder.owns, Recorder.graphFor, own, hg, hl, shownLocals, Table.find?, Table.look,
    Table.insert, Table.put, Table.ofList, Table.insertAll, bind, Except.bind, pure, Except.pure,
    Except.mapError]

theorem exists_panes_of_loopRun : loopRun.recorder.snapshots ≠ [] ∧
    ∀ snapshot ∈ loopRun.recorder.snapshots,
      (∃ pane, (sourcePane
          ⟨{ texts := .ofList [("loop.src", "while f(): pass")] },
            highlightLines (fun _ => HighlightCache.strayTokens) HighlightCache.plainStyles, {}, ""⟩
          {} snapshot.body snapshot.position).panes = .ok [pane]) ∧
        ∃ markup, (graphPane (fun _ => { drawing := .ok (Utf8.encode "<svg/>") }) {}
          snapshot.body {} (some snapshot.position)).markup = .ok markup := by
  have known : ∀ t ∈ HighlightCache.strayTokens,
      (HighlightCache.plainStyles.style? t.kind).isSome := by decide
  have draws : Layouter.Draws fun _ => { drawing := .ok (Utf8.encode "<svg/>") } :=
    fun _ => ⟨"<svg/>", by decide, rfl⟩
  have regular : ∀ code ∈ loopSession.codes, code.Regular := by
    intro code hcode
    obtain rfl := List.mem_singleton.1 hcode
    exact guardedLoop_regular
  refine ⟨loopRun_records, fun snapshot recorded => ?_⟩
  exact exists_panes_of_mem_snapshots regular recorded known .empty {} {} "" draws {} {}

end TraceLens
