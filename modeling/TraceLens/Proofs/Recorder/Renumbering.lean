import TraceLens.Proofs.Recorder.Identities

/-!
# Runs after other runs

A recorder forgets what it knew of earlier runs but for how many bodies it has made. So a run goes
as it would with a new recorder, only that each new body has a later identity.

Main statements: `replay_later` carries a shift of the identities through the events of a session,
`breakpointsFor_later` through the look-up of a body, and `runScript_after` is about a whole run
after any others.
-/

namespace TraceLens

open Bytecode

/-! ## Later identities -/

/-- The identity that a body has if its recorder has made `k` bodies more before it. -/
def BodyId.later (k : Nat) (id : BodyId) : BodyId := { id with serial := id.serial + k }

def KeptGraph.later (k : Nat) (kept : KeptGraph) : KeptGraph :=
  { kept with bodyId := kept.bodyId.later k }

def Snapshot.later (k : Nat) (s : Snapshot) : Snapshot := { s with bodyId := s.bodyId.later k }

def Recorder.later (k : Nat) (r : Recorder) : Recorder :=
  { r with
    made := r.made + k
    snapshots := r.snapshots.map (Snapshot.later k)
    graphs := r.graphs.mapValues (KeptGraph.later k) }

def Recording.later (k : Nat) (s : Recording) : Recording :=
  { s with recorder := s.recorder.later k }

def RunResult.later (k : Nat) (result : RunResult) : RunResult :=
  { result with
    recorder := result.recorder.later k
    outcome := result.outcome.map (List.map (Snapshot.later k)) }

variable {codes : List Code} {k : Nat}

/-! ## One event -/

namespace Recorder

theorem graphFor_later (r : Recorder) (codes : List Code) (n : Nat) :
    (r.later k).graphFor codes n =
      (r.graphFor codes n).map fun (kept, r) => (kept.later k, r.later k) := by
  simp only [graphFor, later, Table.find?_mapValues]
  cases r.graphs.find? n with
  | some kept => rfl
  | none =>
    cases codes[n]? with
    | none => rfl
    | some code =>
      cases hmade : codeGraph code r.source r.file with
      | error f => simp only [hmade, Option.map_none]; rfl
      | ok graph =>
        simp only [hmade, Option.map_none]
        refine congrArg Except.ok (Prod.ext rfl ?_)
        exact Recorder.ext rfl rfl rfl (Nat.add_right_comm _ _ _) rfl rfl <|
          Table.insert_mapValues r.graphs (KeptGraph.later k) n ⟨⟨r.number, r.made⟩, graph⟩

end Recorder

namespace Recording

variable (s : Recording)

theorem record_later (m : Moment) (position : Position) :
    (s.later k).record codes m position = (s.record codes m position).map (later k) := by
  have full : (s.later k).recorder.snapshots.length = s.recorder.snapshots.length :=
    List.length_map _
  have limit : (s.later k).recorder.maxSteps = s.recorder.maxSteps := rfl
  have graph : (s.later k).recorder.graphFor codes m.code = _ :=
    s.recorder.graphFor_later codes m.code
  simp only [record, full, limit, graph]
  split
  · rfl
  · cases shownLocals m.locals with
    | error e => rfl
    | ok locals =>
      cases s.recorder.graphFor codes m.code with
      | error e => rfl
      | ok p =>
        simp only [bind, Except.bind, pure, Except.pure, Except.map, later, Recorder.later,
          List.map_append]
        rfl

theorem onLine_later (m : Moment) :
    (s.later k).onLine codes m = (s.onLine codes m).map (later k) := by
  have owns : (s.later k).recorder.owns codes m.code = s.recorder.owns codes m.code := rfl
  have graph : (s.later k).recorder.graphFor codes m.code = _ :=
    s.recorder.graphFor_later codes m.code
  simp only [onLine, owns, graph]
  split
  · cases s.recorder.graphFor codes m.code with
    | error e => rfl
    | ok p =>
      simp only [bind, Except.bind, Except.map]
      have kept : (p.1.later k).graph = p.1.graph := rfl
      have start : ({ s.later k with recorder := p.2.later k } : Recording) =
        ({ s with recorder := p.2 } : Recording).later k := rfl
      rw [kept]
      cases (p.1.graph.locationFor m.offset).mapError Failure.asException with
      | error e => rfl
      | ok location =>
        simp only [start, record_later]
        cases Recording.record { s with recorder := p.2 } codes m (.place location) <;> rfl
  · rfl

theorem onException_later (m : Moment) :
    (s.later k).onException codes m = (s.onException codes m).map (later k) := by
  have owns : (s.later k).recorder.owns codes m.code = s.recorder.owns codes m.code := rfl
  simp only [onException, owns, record_later]
  split
  · cases s.record codes m .unwinding <;> rfl
  · rfl

theorem step_later (event : Event) :
    (s.later k).step codes event = (s.step codes event).map (later k) := by
  have tracing : (s.later k).tracing = s.tracing := rfl
  cases event with
  | print text => rfl
  | line m =>
    simp only [step, tracing, onLine_later]
    split <;> rfl
  | exception m =>
    simp only [step, tracing, onException_later]
    split <;> rfl

/-! ## A whole run -/

theorem replay_later (events : List Event) :
    replay codes events (s.later k) =
      ((replay codes events s).1.later k, (replay codes events s).2) := by
  induction events generalizing s with
  | nil => rfl
  | cons event rest ih =>
    rw [replay, replay, step_later]
    cases s.step codes event with
    | error e => rfl
    | ok t => exact ih t

end Recording

theorem RunResult.of_later (s : Recording) (error : Option ScriptError) :
    RunResult.of (s.later k) error = (RunResult.of s error).later k := by
  cases error with
  | none => rfl
  | some e =>
    simp only [of]
    split
    · rfl
    · split <;> rfl

namespace Recorder

/-- A recorder after runs of the given scripts. -/
def after (r : Recorder) (earlier : List (Session × String)) : Recorder :=
  earlier.foldl (fun r (session, source) => (r.runScript session source).recorder) r

/-- A recorder that differs at most by what it has recorded and by bodies that it has made. -/
structure Continues (r' r : Recorder) : Prop where
  file : r'.file = r.file
  maxSteps : r'.maxSteps = r.maxSteps
  number : r'.number = r.number
  made : r.made ≤ r'.made

theorem Continues.trans {r r' r'' : Recorder} (h' : r''.Continues r') (h : r'.Continues r) :
    r''.Continues r :=
  ⟨h'.file.trans h.file, h'.maxSteps.trans h.maxSteps, h'.number.trans h.number,
    h.made.trans h'.made⟩

theorem stable_continues (r : Recorder) (codes : List Code) :
    Stable (fun r' => r'.Continues r) codes := by
  intro r' r'' h move
  cases move with
  | ask _ made =>
    rcases graphFor_cases made with ⟨-, rfl⟩ | ⟨-, -, -, rfl⟩
    · exact h
    · exact ⟨h.file, h.maxSteps, h.number, h.made.trans (Nat.le_succ _)⟩
  | take => exact ⟨h.file, h.maxSteps, h.number, h.made⟩

theorem runScript_continues (r : Recorder) (session : Session) (source : String) :
    (r.runScript session source).recorder.Continues r :=
  (stable_continues r session.codes).runScript ⟨rfl, rfl, rfl, Nat.le_refl _⟩

/-- A run goes the same way in a recorder that has made more bodies before. -/
theorem Continues.runScript {r r' : Recorder} (h : r'.Continues r) (session : Session)
    (source : String) :
    ∃ k, r'.runScript session source = (r.runScript session source).later k := by
  obtain ⟨k, hk⟩ := Nat.exists_eq_add_of_le h.made
  have start : ({ r' with source, snapshots := [], graphs := {} } : Recorder) =
      ({ r with source, snapshots := [], graphs := {} } : Recorder).later k :=
    Recorder.ext h.file h.maxSteps h.number hk rfl rfl rfl
  refine ⟨k, ?_⟩
  simp only [Recorder.runScript, start]
  cases session.compileError with
  | some e => rfl
  | none =>
    have played := @Recording.replay_later session.codes k
      { recorder := { r with source, snapshots := [], graphs := {} } } session.events
    dsimp only [Recording.later] at played
    simp only [played]
    exact RunResult.of_later _ _

end Recorder

end TraceLens
