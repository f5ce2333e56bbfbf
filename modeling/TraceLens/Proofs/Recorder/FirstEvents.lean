import TraceLens.Proofs.Recorder.Ready
import TraceLens.Proofs.Recorder.Renumbering

/-!
# The first events of a script

A recorder takes the first events of its own script, up to its limit and in their order, and nothing
else. Each snapshot shows its event in the graph of the code that was running, and a code has one
body in a run. An event whose variables cannot all be shown ends the script and the recording with
it.

Main statements: `replay_records` follows the events of a session, and `runScript_records` is about
a whole run, whatever the recorder has run before.
-/

namespace TraceLens

open Bytecode

namespace Recording

variable {s t : Recording} {codes : List Code} {source file : String} {maxSteps : Int}

/-! ## The events of a session -/

/-- What a recording has come to after due events: there is a snapshot of each of them up to the
first of which none can be taken, which raises. -/
structure Follows (s : Recording) (codes : List Code) (source file : String) (maxSteps : Int)
    (due : List Event) (played : Recording × Option ScriptError) : Prop where
  ready : played.1.Ready codes source file maxSteps
  raised : played.2 = due.findSome? Event.refusal?
  added : ∃ new, played.1.recorder.snapshots = s.recorder.snapshots ++ new ∧
    played.1.recorder.Records codes source file
      (due.takeWhile fun event => event.refusal?.isNone) new

section Follows

variable {event : Event} {due : List Event} {played : Recording × Option ScriptError}

theorem Ready.follows (hs : s.Ready codes source file maxSteps) :
    s.Follows codes source file maxSteps [] (s, none) :=
  ⟨hs, rfl, [], (List.append_nil _).symm, .nil⟩

theorem Ready.follows_of_refusal (hs : s.Ready codes source file maxSteps) {e : ScriptError}
    (refused : event.refusal? = some e) (due : List Event) :
    s.Follows codes source file maxSteps (event :: due) (s, some e) :=
  ⟨hs, by simp [refused], [], (List.append_nil _).symm, by simp [Recorder.Records, refused]⟩

theorem Follows.of_same (h : t.Follows codes source file maxSteps due played)
    (same : t.recorder.snapshots = s.recorder.snapshots) :
    s.Follows codes source file maxSteps due played :=
  ⟨h.ready, h.raised, same ▸ h.added⟩

theorem Follows.cons (h : t.Follows codes source file maxSteps due played)
    (keeps : t.recorder.Keeps played.1.recorder) (shown : event.refusal? = none)
    {snapshot : Snapshot} (happend : t.recorder.snapshots = s.recorder.snapshots ++ [snapshot])
    {m : Moment} {g : CodeGraph} (hm : event.moment? = some m)
    (hrecords : snapshot.Records t.recorder codes source file event m g) :
    s.Follows codes source file maxSteps (event :: due) played := by
  obtain ⟨new, hnew, hrest⟩ := h.added
  refine ⟨h.ready, by simpa [shown] using h.raised, snapshot :: new, ?_, ?_⟩
  · rw [hnew, happend, List.append_assoc, List.singleton_append]
  · rw [List.takeWhile_cons_of_pos (by simp [shown])]
    exact .cons ⟨m, g, hm, hrecords.keeps keeps⟩ hrest

end Follows

/-- A session adds the snapshots of the first own events that there is still room for. -/
theorem replay_records (hs : s.Ready codes source file maxSteps)
    (graphs : HasGraphs codes source file) (events : List Event) :
    s.Follows codes source file maxSteps
      ((events.filter (Event.isOwn codes file)).take
        (maxSteps - s.recorder.snapshots.length).toNat)
      (replay codes events s) := by
  induction events generalizing s with
  | nil => simpa [replay] using hs.follows
  | cons event rest ih =>
    cases own : event.isOwn codes file with
    | false =>
      obtain ⟨t, ht, hrecorder, htracing⟩ := step_of_foreign (s := s) (hs.traces.file_eq ▸ own)
      have ready : t.Ready codes source file maxSteps :=
        hs.congr hrecorder fun h => hrecorder ▸ hs.limited (htracing ▸ h)
      rw [List.filter_cons_of_neg (by simp [own]), replay, ht, ← hrecorder]
      exact (ih ready).of_same (by rw [hrecorder])
    | true =>
      obtain ⟨m, g, hm, own'⟩ := exists_ownGraph graphs own
      have refusal : event.refusal? = m.refusal? := by rw [Event.refusal?, hm]; rfl
      rw [List.filter_cons_of_pos own]
      by_cases full : maxSteps ≤ s.recorder.snapshots.length
      · obtain ⟨t, ht, ready, hsnapshots⟩ := step_of_limit hs full hm own'
        have room : (maxSteps - s.recorder.snapshots.length).toNat = 0 := by omega
        have rest := ih ready
        rw [hsnapshots, room, List.take_zero] at rest
        rw [room, List.take_zero, replay, ht]
        exact rest.of_same hsnapshots
      · have room : s.recorder.snapshots.length < maxSteps := by omega
        obtain ⟨n, hn⟩ : ∃ n, (maxSteps - s.recorder.snapshots.length).toNat = n + 1 :=
          Nat.exists_eq_succ_of_ne_zero (by omega)
        rw [hn, List.take_succ_cons]
        cases hrefusal : m.refusal? with
        | some e =>
          rw [replay, step_of_refusal hs room hm own' hrefusal]
          exact hs.follows_of_refusal (refusal.trans hrefusal) _
        | none =>
          obtain ⟨t, snapshot, ht, ready, happend, hrecords⟩ :=
            step_of_shown hs room hm own' hrefusal
          have left : (maxSteps - t.recorder.snapshots.length).toNat = n := by
            rw [happend, List.length_append, List.length_singleton]
            omega
          have keeps : t.recorder.Keeps (replay codes rest t).1.recorder :=
            (t.recorder.stable_keeps codes).replay (fun _ _ => id) rest
          rw [replay, ht]
          exact (left ▸ ih ready).cons keeps (refusal.trans hrefusal) happend hm hrecords

end Recording

/-! ## A whole run -/

namespace Session

variable (session : Session) (file : String) (maxSteps : Int)

/-- The first events of the script of a file, up to a limit. -/
def due : List Event :=
  (session.events.filter (Event.isOwn session.codes file)).take maxSteps.toNat

/-- The due events before the first of which no snapshot can be taken, if there is one. -/
def recorded : List Event := (session.due file maxSteps).takeWhile fun event =>
  event.refusal?.isNone

/-- The exception of the first due event of which no snapshot can be taken. -/
def refusal? : Option ScriptError := (session.due file maxSteps).findSome? Event.refusal?

end Session

/-- An exception that goes on from a run to whoever asked for it. -/
def ScriptError.escapes (e : ScriptError) : Prop := e.isExit = false ∧ e.endsProgram = true

theorem RunResult.snapshots_of_outcome {s : Recording} {error : Option ScriptError}
    {snapshots : List Snapshot} (h : (RunResult.of s error).outcome = .ok snapshots) :
    snapshots = s.recorder.snapshots := by
  unfold RunResult.of at h
  split at h
  · exact (Except.ok.inj h).symm
  · split at h
    · exact (Except.ok.inj h).symm
    · split at h
      · cases h
      · exact (Except.ok.inj h).symm

namespace Recorder

variable {r : Recorder} {codes : List Code} {source file : String}

/-! ## Recorded snapshots -/

section Records

variable {events : List Event} {snapshots : List Snapshot}

theorem Records.exists_event (h : r.Records codes source file events snapshots)
    {snapshot : Snapshot} (hs : snapshot ∈ snapshots) :
    ∃ event ∈ events, ∃ m g, event.moment? = some m ∧
      snapshot.Records r codes source file event m g := by
  obtain ⟨k, hk⟩ := List.mem_iff_getElem?.1 hs
  obtain ⟨event, hevent, records⟩ := exists_getElem?_left h hk
  exact ⟨event, List.mem_of_getElem? hevent, records⟩

/-- The body of a snapshot has the breakpoints of the graph of its code. -/
theorem Records.breakpointsFor {first : Nat} (h : r.Records codes source file events snapshots)
    (identifies : r.Identifies first) {p : Event × Snapshot} (hp : p ∈ events.zip snapshots)
    {n : Nat} {g : CodeGraph} (hn : p.1.code? = some n) (own : OwnGraph codes source file n g)
    (lines : List Int) : r.breakpointsFor p.2.bodyId lines = g.breakpointsForLines lines := by
  obtain ⟨m, g', hm, hrecords⟩ := List.forall₂_zip h hp
  rw [Event.code?, hm, Option.map_some, Option.some_inj] at hn
  subst hn
  obtain rfl := hrecords.own.unique own
  exact breakpointsFor_of_graphOf? (identifies.graphOf?_bodyId hrecords.kept) lines

end Records

/-- A recorder at the start of a run. -/
def started (r : Recorder) (source : String) : Recording :=
  { recorder := { r with source, snapshots := [], graphs := {} } }

theorem started_ready (r : Recorder) (codes : List Code) (source : String) :
    (r.started source).Ready codes source r.file r.maxSteps :=
  ⟨r.traces_start codes source, rfl, by simp [started]⟩

/-- The exception that a run of a compiled script ends with, if it ends with one. -/
def raised? (r : Recorder) (session : Session) (source : String) : Option ScriptError :=
  (Recording.replay session.codes session.events (r.started source)).2.or
    (match session.ending with
      | .finished => none
      | .raised e => some e)

theorem runScript_eq (r : Recorder) {session : Session} (compiles : session.compileError = none)
    (source : String) :
    r.runScript session source =
      .of (Recording.replay session.codes session.events (r.started source)).1
        (r.raised? session source) := by
  simp only [runScript, compiles]
  rfl

/-- A run comes to the snapshots of the events that are recorded. -/
theorem replay_started (r : Recorder) (session : Session) (source : String)
    (graphs : HasGraphs session.codes source r.file) :
    let played := Recording.replay session.codes session.events (r.started source)
    played.1.Ready session.codes source r.file r.maxSteps ∧
      played.2 = session.refusal? r.file r.maxSteps ∧
      played.1.recorder.Records session.codes source r.file (session.recorded r.file r.maxSteps)
        played.1.recorder.snapshots := by
  have due : (session.events.filter (Event.isOwn session.codes r.file)).take
      (r.maxSteps - (r.started source).recorder.snapshots.length).toNat =
        session.due r.file r.maxSteps := by
    simp [started, Session.due]
  have follows :=
    Recording.replay_records (r.started_ready session.codes source) graphs session.events
  rw [due] at follows
  obtain ⟨ready, refused, new, hnew, hrecords⟩ := follows
  refine ⟨ready, refused, ?_⟩
  rw [hnew]
  exact hrecords

/-- What a run returns is what its recorder holds: the snapshots of the events that are recorded. -/
theorem records_of_outcome {session : Session} {snapshots : List Snapshot}
    (graphs : HasGraphs session.codes source r.file)
    (h : (r.runScript session source).outcome = .ok snapshots) :
    snapshots = (r.runScript session source).recorder.snapshots ∧
      (r.runScript session source).recorder.Records session.codes source r.file
        (session.recorded r.file r.maxSteps) snapshots := by
  have compiles : session.compileError = none := by
    cases hcompile : session.compileError with
    | none => rfl
    | some e =>
      rw [runScript, hcompile] at h
      cases h
  obtain ⟨-, -, records⟩ := r.replay_started session source graphs
  rw [r.runScript_eq compiles] at h ⊢
  rw [RunResult.recorder_of]
  obtain rfl := RunResult.snapshots_of_outcome h
  exact ⟨rfl, records⟩

end Recorder

end TraceLens
