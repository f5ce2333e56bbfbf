import TraceLens.Proofs.Pane.Rendering

/-!
# Failed layouts

A request for a graph pane fails as a rendering when the layout turns it down, is missing or fails,
and when what it writes holds no picture. Two things that a layout process can do are not taken for
a failed rendering: it cannot be started for another reason than that it is missing, and it ends
well but writes what is no text.

Main statement: `graphPane_outcome` says what the markup of a pane begins with, and which failures
other than a failed rendering there are.
-/

namespace TraceLens

/-- A failed rendering, which the programs that show a pane report as such. -/
def Failure.IsRender (f : Failure) : Prop := ∃ fault, f = .render fault

/-! ## The process -/

namespace Layout

/-- What a process can do so that a request fails, but not as a rendering. -/
inductive ProcessEnd.Escapes : ProcessEnd → Failure → Prop
  | unstarted {errno : Int} (other : errno ≠ 2) :
    (ProcessEnd.unstarted errno).Escapes (.process errno)
  | undecodable {output diagnostics : List UInt8} {text : String} {fault : Utf8.Fault}
    (readable : Utf8.decode diagnostics = .ok text) (torn : Utf8.decode output = .error fault) :
    (ProcessEnd.ended output diagnostics 0).Escapes (.undecodable fault)

/-- A request for which a process is started. -/
def Request.Known (r : Request) : Prop :=
  LowerCase.lower r.engine ∈ LayoutRefusal.engines ∧
    LowerCase.lower r.format ∈ LayoutRefusal.formats

variable {request : Request} {process : ProcessEnd}

theorem isRender_of_not_known (h : ¬request.Known) (process : ProcessEnd) :
    ∃ fault, (render request process).drawing = .error (.render fault) := by
  unfold render
  by_cases engine : LowerCase.lower request.engine ∈ LayoutRefusal.engines
  · have format : LowerCase.lower request.format ∉ LayoutRefusal.formats := fun hf => h ⟨engine, hf⟩
    simp [engine, format, Run.failed]
  · simp [engine, Run.failed]

namespace Request.Known

variable (known : request.Known)
include known

theorem render_eq : render request process = .ofEnd request
    ⟨LowerCase.lower request.engine, request.format, inputText request.source⟩ process := by
  simp [render, known.1, known.2]

theorem drawing_unstarted (errno : Int) : (render request (.unstarted errno)).drawing =
    .error (if errno = 2 then .render .layoutMissing else .process errno) := by
  simp only [known.render_eq, Run.ofEnd]
  split <;> rfl

theorem drawing_ended {output diagnostics : List UInt8} {text : String} (status : Int)
    (readable : Utf8.decode diagnostics = .ok text) :
    (render request (.ended output diagnostics status)).drawing =
      if status = 0 then .ok output
      else .error (.render (.layoutFailed request.engine
        ⟨LowerCase.lower request.engine, request.format, status, diagnostics⟩)) := by
  simp only [known.render_eq, Run.ofEnd, readable]

theorem drawing_unreadable {output diagnostics : List UInt8} {fault : Utf8.Fault} (status : Int)
    (unreadable : Utf8.decode diagnostics = .error fault) :
    (render request (.ended output diagnostics status)).drawing =
      .error (.render (.layoutRefused (.unreadableDiagnostics fault))) := by
  simp only [known.render_eq, Run.ofEnd, unreadable, Run.failed]

end Request.Known

end Layout

open Layout

/-! ## Embedding -/

theorem prefix_of_fromFirst? {mark cs rest : List Char} (h : fromFirst? mark cs = some rest) :
    mark <+: rest := by
  induction cs with
  | nil => cases h
  | cons c cs ih =>
    unfold fromFirst? at h
    split at h
    · rename_i hmark
      cases h
      exact List.isPrefixOf_iff_prefix.1 hmark
    · exact ih h

theorem prefix_of_embedDrawing {drawing : List UInt8} {markup : String}
    (h : embedDrawing drawing = .ok markup) : "<div id=\"mir\"><svg".toList <+: markup.toList := by
  unfold embedDrawing at h
  split at h
  · cases h
  · split at h
    · cases h
    · rename_i picture hpicture
      cases h
      obtain ⟨rest, rfl⟩ := prefix_of_fromFirst? hpicture
      exact ⟨rest ++ "</div>".toList, by simp⟩

theorem embedDrawing_eq_error {drawing : List UInt8} {f : Failure}
    (h : embedDrawing drawing = .error f) :
    f.IsRender ∨ ∃ fault, Utf8.decode drawing = .error fault ∧ f = .undecodable fault := by
  unfold embedDrawing at h
  split at h
  · rename_i fault hfault
    cases h
    exact .inr ⟨fault, hfault, rfl⟩
  · split at h
    · cases h
      exact .inl ⟨_, rfl⟩
    · cases h

/-- A drawing that is laid out and embedded fails other than as a rendering just when the process
is started and lets such a failure through. -/
theorem embedded_eq_error_iff {request : Request} {process : ProcessEnd} {f : Failure}
    (h : ¬f.IsRender) :
    (render request process).drawing >>= embedDrawing = .error f ↔
      request.Known ∧ process.Escapes f := by
  constructor
  · intro failed
    by_cases known : request.Known
    · refine ⟨known, ?_⟩
      cases process with
      | unstarted errno =>
        rw [known.drawing_unstarted] at failed
        obtain rfl := Except.error.inj failed
        split at h
        · exact absurd ⟨_, rfl⟩ h
        · rename_i other
          rw [if_neg other]
          exact .unstarted other
      | ended output diagnostics status =>
        cases hd : Utf8.decode diagnostics with
        | error fault =>
          rw [known.drawing_unreadable status hd] at failed
          exact absurd ⟨_, (Except.error.inj failed).symm⟩ h
        | ok text =>
          rw [known.drawing_ended status hd] at failed
          split at failed
          · rename_i hstatus
            obtain ⟨fault, torn, rfl⟩ := (embedDrawing_eq_error failed).resolve_left h
            exact hstatus ▸ .undecodable hd torn
          · exact absurd ⟨_, (Except.error.inj failed).symm⟩ h
    · obtain ⟨fault, hfault⟩ := isRender_of_not_known known process
      rw [hfault] at failed
      exact absurd ⟨fault, (Except.error.inj failed).symm⟩ h
  · rintro ⟨known, escapes⟩
    cases escapes with
    | unstarted other =>
      rw [known.drawing_unstarted, if_neg other]
      rfl
    | undecodable readable torn =>
      rw [known.drawing_ended 0 readable, if_pos rfl]
      change embedDrawing _ = _
      rw [embedDrawing, torn]

/-! ## The body -/

theorem Ending.head_eq_error_iff {e : Ending} {f : Failure} :
    e.head = .error f ↔ e = .unspecified ∧ f = .unspecifiedTerminator := by
  by_cases concrete : e = .unspecified
  · subst concrete
    simp [head, eq_comm]
  · obtain ⟨text, htext⟩ := exists_head concrete
    simp [htext, concrete]

namespace Body

variable {body : Body} {f : Failure}

theorem node_eq_error_iff {breakpoints : Breakpoints} {block : Block} {n : Nat} :
    body.node breakpoints block n = .error f ↔
      block.terminator.ending = .unspecified ∧ f = .unspecifiedTerminator := by
  rw [← Ending.head_eq_error_iff, Body.node, Block.label]
  cases block.terminator.ending.head <;> simp [bind, Except.bind, pure, Except.pure]

/-- Only an ending that says nothing of itself keeps a body from being drawn. -/
theorem digraph_eq_error_iff {breakpoints : Breakpoints} {font : String} :
    body.digraph breakpoints font = .error f ↔ f = .unspecifiedTerminator ∧
      ∃ block ∈ body.blocks, block.terminator.ending = .unspecified := by
  by_cases concrete : ∀ block ∈ body.blocks, block.terminator.ending ≠ .unspecified
  · obtain ⟨graph, hgraph⟩ := body.exists_digraph concrete breakpoints font
    rw [hgraph]
    refine ⟨fun h => (nomatch h), ?_⟩
    rintro ⟨-, block, hblock, bare⟩
    exact absurd bare (concrete block hblock)
  · obtain ⟨block, hblock, bare⟩ : ∃ block ∈ body.blocks,
        block.terminator.ending = .unspecified := by simpa using concrete
    obtain ⟨n, hn⟩ := List.getElem?_of_mem hblock
    have failing : ∃ p ∈ body.blocks.zipIdx, ∃ e, body.node breakpoints p.1 p.2 = .error e :=
      ⟨(block, n), List.mk_mem_zipIdx_iff_getElem?.2 hn, _, node_eq_error_iff.2 ⟨bare, rfl⟩⟩
    obtain ⟨p, -, e, he, nodes⟩ := exists_mapM_eq_error failing
    obtain ⟨-, rfl⟩ := node_eq_error_iff.1 he
    have drawn : body.digraph breakpoints font = .error .unspecifiedTerminator := by
      rw [digraph]
      change (body.blocks.zipIdx.mapM fun p => body.node breakpoints p.1 p.2) >>= _ = _
      rw [nodes]
      rfl
    rw [drawn]
    exact ⟨fun h => ⟨(Except.error.inj h).symm, block, hblock, bare⟩, fun h => by rw [h.1]⟩

/-- An overlay on a block of the body can only fail as a rendering. -/
theorem overlay_isRender {l : Location} {block : Block} (hb : body.block? l.block = .ok block)
    {rowColor : String} (h : body.overlay l rowColor = .error f) : f.IsRender := by
  by_cases inside : 0 ≤ l.statement ∧ l.statement ≤ block.statements.length
  · obtain ⟨overlay, hoverlay⟩ := body.exists_overlay hb inside.1 inside.2 rowColor
    cases hoverlay.symm.trans h
  · have outside : block.rowOf l.statement =
        .error (.render (.statementOutside l.statement block.statements.length)) :=
      Block.rowOf_error_iff.2 ⟨by omega, rfl⟩
    simp only [overlay, hb, outside, bind, Except.bind] at h
    exact ⟨_, (Except.error.inj h).symm⟩

end Body

/-! ## The pane -/

section Pane

variable {settings : Settings} {body : Body} {current : Option Position}
  {drawing : Except Failure (List UInt8)}

/-- Whatever is laid over a picture stands after it. -/
theorem GraphPaneRun.prefix_of_markupOf {markup : String}
    (h : GraphPaneRun.markupOf body current settings drawing = .ok markup) :
    "<div id=\"mir\"><svg".toList <+: markup.toList := by
  obtain ⟨bytes, -, h⟩ := bind_eq_ok_iff.1 h
  obtain ⟨picture, hpicture, h⟩ := bind_eq_ok_iff.1 h
  have start := prefix_of_embedDrawing hpicture
  have longer (more : String) :
      "<div id=\"mir\"><svg".toList <+: (picture ++ more).toList := by
    rw [String.toList_append]
    exact start.trans (List.prefix_append _ _)
  cases current with
  | none =>
    obtain rfl := pure_eq_ok_iff.1 h
    exact start
  | some position =>
    cases position with
    | unwinding =>
      obtain rfl := pure_eq_ok_iff.1 h
      exact longer _
    | place l =>
      obtain ⟨overlay, -, h⟩ := bind_eq_ok_iff.1 h
      obtain rfl := pure_eq_ok_iff.1 h
      exact longer _

/-- What is laid over a picture does not fail but as a rendering. -/
theorem GraphPaneRun.markupOf_eq_error_iff
    (valid : ∀ l ∈ current.bind Position.location?, ∃ block, body.block? l.block = .ok block)
    {f : Failure} (h : ¬f.IsRender) :
    GraphPaneRun.markupOf body current settings drawing = .error f ↔
      drawing >>= embedDrawing = .error f := by
  unfold markupOf
  cases drawing with
  | error f' => rfl
  | ok bytes =>
    change embedDrawing bytes >>= _ = _ ↔ embedDrawing bytes = _
    cases embedDrawing bytes with
    | error f' => rfl
    | ok picture =>
      refine ⟨fun failed => ?_, fun failed => (nomatch failed)⟩
      cases current with
      | none => cases failed
      | some position =>
        cases position with
        | unwinding => cases failed
        | place l =>
          obtain ⟨block, hb⟩ := valid l rfl
          cases hoverlay : body.overlay l settings.currentRowColor with
          | ok overlay =>
            change body.overlay l settings.currentRowColor >>= _ = _ at failed
            rw [hoverlay] at failed
            cases failed
          | error f' =>
            change body.overlay l settings.currentRowColor >>= _ = _ at failed
            rw [hoverlay] at failed
            obtain rfl := Except.error.inj failed
            exact absurd (Body.overlay_isRender hb hoverlay) h

/-- The markup of a graph pane begins with the picture. A pane that has none has failed as a
rendering, unless the body has an ending that says nothing of itself or a process that was started
lets another failure through. -/
theorem graphPane_outcome (settings : Settings) (body : Body) (breakpoints : Breakpoints)
    {current : Option Position}
    (valid : ∀ l ∈ current.bind Position.location?, ∃ block, body.block? l.block = .ok block)
    (process : ProcessEnd) :
    let outcome := (graphPane (Layout.render · process) settings body breakpoints current).markup
    (∀ markup, outcome = .ok markup → "<div id=\"mir\"><svg".toList <+: markup.toList) ∧
      ∀ f : Failure, ¬f.IsRender → (outcome = .error f ↔
        (f = .unspecifiedTerminator ∧
          ∃ block ∈ body.blocks, block.terminator.ending = .unspecified) ∨
        ((∀ block ∈ body.blocks, block.terminator.ending ≠ .unspecified) ∧
          LowerCase.lower settings.layoutEngine ∈ LayoutRefusal.engines ∧ process.Escapes f)) := by
  intro outcome
  have svg : LowerCase.lower "svg" ∈ LayoutRefusal.formats := by decide +kernel
  cases hgraph : body.digraph breakpoints settings.font with
  | error f' =>
    obtain ⟨rfl, bare⟩ := Body.digraph_eq_error_iff.1 hgraph
    have failed : outcome = .error .unspecifiedTerminator := by simp [outcome, graphPane, hgraph]
    rw [failed]
    refine ⟨fun markup h => ?_, fun f _ => ⟨fun h => .inl ⟨?_, bare⟩, ?_⟩⟩
    · cases h
    · exact (Except.error.inj h).symm
    · rintro (⟨rfl, -⟩ | ⟨concrete, -, -⟩)
      · rfl
      · obtain ⟨block, hblock, hbare⟩ := bare
        exact absurd hbare (concrete block hblock)
  | ok graph =>
    have concrete : ∀ block ∈ body.blocks, block.terminator.ending ≠ .unspecified := by
      intro block hblock bare
      have failed : body.digraph breakpoints settings.font = .error .unspecifiedTerminator :=
        Body.digraph_eq_error_iff.2 ⟨rfl, block, hblock, bare⟩
      cases hgraph.symm.trans failed
    have laid : outcome = GraphPaneRun.markupOf body current settings
        (render { engine := settings.layoutEngine, source := graph.text } process).drawing := by
      simp [outcome, graphPane, hgraph]
    rw [laid]
    refine ⟨fun markup h => GraphPaneRun.prefix_of_markupOf h, fun f h => ?_⟩
    rw [GraphPaneRun.markupOf_eq_error_iff valid h, embedded_eq_error_iff h]
    constructor
    · rintro ⟨known, escapes⟩
      exact .inr ⟨concrete, known.1, escapes⟩
    · rintro (⟨-, block, hblock, bare⟩ | ⟨-, engine, escapes⟩)
      · exact absurd bare (concrete block hblock)
      · exact ⟨⟨engine, svg⟩, escapes⟩

/-- A body that only returns. -/
def loneReturn : Body where
  blocks := [⟨[], ⟨.ofRegion ⟨"main.rs", 0, 6⟩, .ret⟩⟩]
  span := .ofRegion ⟨"main.rs", 0, 6⟩

theorem graphPane_outcome_loneReturn :
    (∀ l ∈ (some (Position.place ⟨0, 0⟩)).bind Position.location?,
      ∃ block, loneReturn.block? l.block = .ok block) ∧
    ∀ f : Failure, ¬f.IsRender →
      (graphPane (Layout.render · (.unstarted 2)) {} loneReturn {} (some (.place ⟨0, 0⟩))).markup ≠
        .error f := by
  have valid : ∀ l ∈ (some (Position.place ⟨0, 0⟩)).bind Position.location?,
      ∃ block, loneReturn.block? l.block = .ok block := by
    rintro l ⟨⟩
    exact ⟨_, rfl⟩
  refine ⟨valid, fun f h failed => ?_⟩
  rcases ((graphPane_outcome {} loneReturn {} valid (.unstarted 2)).2 f h).1 failed with
    ⟨-, bare⟩ | ⟨-, -, escapes⟩
  · revert bare
    decide
  · cases escapes with
    | unstarted other => exact other rfl

/-- A process that may not be started, and one that writes what is no text. -/
theorem graphPane_loneReturn :
    (graphPane (Layout.render · (.unstarted 13)) {} loneReturn {} none).markup =
        .error (.process 13) ∧
      (graphPane (Layout.render · (.ended [0xff] [] 0)) {} loneReturn {} none).markup =
        .error (.undecodable ⟨0xff, 0, 1, .invalidStart⟩) := by
  decide +kernel

end Pane

end TraceLens
