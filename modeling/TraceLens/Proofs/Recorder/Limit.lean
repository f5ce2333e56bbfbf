import TraceLens.Proofs.Recorder.FirstEvents

/-!
# At the limit

Taking a snapshot at the limit asks for the script to be ended, but the moment that led to it ends
with a request for the next one, which takes the first request back. So the limit ends the
recording and not the script: all that is left of the session is played, and what it prints comes
out.

Main statements: `replayUntilQuit_eq_replay` says that no session is ever cut short by a request to
end it, `replay_of_limit` follows a session from the limit on, and `runScript_output` is about the
output of a whole run.
-/

namespace TraceLens

open Bytecode

/-- A text followed by all that events print. -/
def printedAfter (text : String) (events : List Event) : String :=
  events.foldl (fun text event => text ++ event.printed) text

namespace Recording

variable {s t : Recording} {codes : List Code} {source file : String} {maxSteps : Int}
  {events : List Event}

/-- The events of a session up to the first that leaves a request to end the script, or raises. -/
def replayUntilQuit (codes : List Code) :
    List Event → Recording → Recording × Option ScriptError
  | [], s => (s, none)
  | event :: rest, s =>
    match s.step codes event with
    | .ok t => if t.quitting then (t, none) else replayUntilQuit codes rest t
    | .error e => (s, some e)

/-- No event leaves a request to end the script, so to watch for one changes nothing. -/
theorem replayUntilQuit_eq_replay (hs : s.quitting = false) (events : List Event) :
    replayUntilQuit codes events s = replay codes events s := by
  induction events generalizing s with
  | nil => rfl
  | cons event rest ih =>
    cases h : s.step codes event with
    | error e => simp only [replayUntilQuit, replay, h]
    | ok t =>
      have ht : t.quitting = false := (step_frame h).2 hs
      simp only [replayUntilQuit, replay, h, ht, Bool.false_eq_true, if_false, ih ht]

theorem replay_quitting (hs : s.quitting = false) (events : List Event) :
    (replay codes events s).1.quitting = false := by
  induction events generalizing s with
  | nil => exact hs
  | cons event rest ih =>
    unfold replay
    split
    · rename_i t ht
      exact ih ((step_frame ht).2 hs)
    · exact hs

/-- The output of a session that no event ends. -/
theorem replay_output (h : (replay codes events s).2 = none) :
    (replay codes events s).1.output = printedAfter s.output events := by
  induction events generalizing s with
  | nil => rfl
  | cons event rest ih =>
    cases hstep : s.step codes event with
    | error e => simp [replay, hstep] at h
    | ok t =>
      simp only [replay, hstep] at h ⊢
      rw [ih h, (step_frame hstep).1]
      rfl

/-- From the limit on a session is played to its end: each event leaves the snapshots as they are
and the script running. -/
theorem replay_of_limit (hs : s.Ready codes source file maxSteps)
    (quitting : s.quitting = false) (full : maxSteps ≤ s.recorder.snapshots.length)
    (graphs : HasGraphs codes source file)
    (events : List Event) :
    ∃ t, replay codes events s = (t, none) ∧ replayUntilQuit codes events s = (t, none) ∧
      t.recorder.snapshots = s.recorder.snapshots ∧ t.quitting = false ∧
      t.output = printedAfter s.output events := by
  have due : (events.filter (Event.isOwn codes file)).take
      (maxSteps - s.recorder.snapshots.length).toNat = [] := by
    rw [Int.toNat_of_nonpos (by omega), List.take_zero]
  have follows := replay_records hs graphs events
  rw [due] at follows
  obtain ⟨-, ended, new, hnew, hrecords⟩ := follows
  obtain rfl : new = [] := List.forall₂_nil_left_iff.1 hrecords
  have played : replay codes events s = ((replay codes events s).1, none) := Prod.ext rfl ended
  exact ⟨_, played, (replayUntilQuit_eq_replay quitting events).trans played,
    hnew.trans (List.append_nil _), replay_quitting quitting events, replay_output ended⟩

/-- A session with a second line after the one that the recorder takes. -/
def overlongSession : Session where
  codes := [guardedLoop]
  events := [.line ⟨0, 2, some 1, {}⟩, .line ⟨0, 8, some 1, {}⟩, .print "still running"]

/-- The recording of the overlong session once it is at its limit. -/
def filledRecording : Recording :=
  (replay [guardedLoop] [.line ⟨0, 2, some 1, {}⟩]
    (Recorder.started { file := "loop.src", maxSteps := 1 } "while f(): pass")).1

theorem replay_of_limit_filledRecording :
    filledRecording.recorder.snapshots.length = 1 ∧
      ∃ t, replay [guardedLoop] (overlongSession.events.drop 1) filledRecording = (t, none) ∧
        t.recorder.snapshots = filledRecording.recorder.snapshots ∧ t.quitting = false ∧
        t.output = "still running" := by
  let first : Session := { overlongSession with events := overlongSession.events.take 1 }
  have number : (first.recorded "loop.src" 1).length = 1 := by decide
  obtain ⟨ready, refused, hrecords⟩ := Recorder.replay_started
    { file := "loop.src", maxSteps := 1 } first "while f(): pass" (hasGraphs_guardedLoop _ _)
  have length : filledRecording.recorder.snapshots.length = 1 := hrecords.length_eq ▸ number
  have output : filledRecording.output = "" := by
    have shown : first.refusal? "loop.src" 1 = none := by decide
    exact replay_output (refused.trans shown)
  obtain ⟨t, played, -, hsnapshots, quitting, printed⟩ :=
    replay_of_limit (s := filledRecording) ready (replay_quitting rfl _) (by rw [length]; decide)
      (hasGraphs_guardedLoop _ _) (overlongSession.events.drop 1)
  rw [output] at printed
  exact ⟨length, t, played, hsnapshots, quitting, printed⟩

/-- The second line of the overlong session finds the recorder at its limit, and yet the script goes
on to print. -/
theorem replayUntilQuit_overlongSession :
    let start := Recorder.started { file := "loop.src", maxSteps := 1 } "while f(): pass"
    let ended := (replayUntilQuit overlongSession.codes overlongSession.events start).1
    ended.recorder.snapshots.length = 1 ∧ ended.quitting = false ∧
      ended.output = "still running" := by
  have number : (overlongSession.recorded "loop.src" 1).length = 1 := by decide
  have shown : overlongSession.refusal? "loop.src" 1 = none := by decide
  obtain ⟨-, refused, hrecords⟩ := Recorder.replay_started
    { file := "loop.src", maxSteps := 1 } overlongSession "while f(): pass"
    (hasGraphs_guardedLoop _ _)
  dsimp only
  rw [replayUntilQuit_eq_replay rfl]
  exact ⟨hrecords.length_eq ▸ number, replay_quitting rfl _, replay_output (refused.trans shown)⟩

end Recording

theorem RunResult.output_of (s : Recording) (error : Option ScriptError) :
    (RunResult.of s error).output = s.output := by
  unfold RunResult.of
  split
  · rfl
  · split
    · rfl
    · split <;> rfl

/-- Whatever the limit is, all that a script prints comes out. -/
theorem Recorder.runScript_output (r : Recorder) (session : Session) (source : String)
    (compiles : session.compileError = none)
    (graphs : HasGraphs session.codes source r.file)
    (shown : session.refusal? r.file r.maxSteps = none) :
    (r.runScript session source).output = printedAfter "" session.events := by
  obtain ⟨-, played, -⟩ := r.replay_started session source graphs
  rw [r.runScript_eq compiles, RunResult.output_of, Recording.replay_output (played.trans shown)]
  rfl

end TraceLens
