import TraceLens.Log
import TraceLens.Recorder.Session

/-!
# Recording a run

A recorder takes a snapshot at each moment of its own script, up to a limit. The graph of a code
is made when it is first needed and kept for the run; its body then gets an identity, by which the
graph is found again. Once the limit is reached nothing more is recorded, while the script goes on
to its end.

Main statement: `record_of_limit` says that nothing is recorded once the limit is reached.
-/

namespace TraceLens

/-- The identity of a body: the number of the recorder that made it, and how many bodies that one
had made before. -/
structure BodyId where
  recorder : Nat
  serial : Nat
  deriving DecidableEq, Repr

/-- The graph of a code, with the identity of its body. -/
structure KeptGraph where
  bodyId : BodyId
  graph : Bytecode.CodeGraph

/-- The state of the script at one moment. -/
structure Snapshot where
  bodyId : BodyId
  body : Body
  position : Position
  line : Option Int
  /-- The variables with what is shown for their values. -/
  locals : Table String String

/-- How the line of a snapshot is shown, which may be missing. -/
def Snapshot.lineText (s : Snapshot) : String := (s.line.map toString).getD "None"

@[ext] structure Recorder where
  file : String
  maxSteps : Int
  /-- No two recorders have one number. -/
  number : Nat := 0
  /-- How many bodies there have been in all runs. -/
  made : Nat := 0
  source : String := ""
  snapshots : List Snapshot := []
  /-- The graphs of the codes seen in this run, by the numbers of the codes. -/
  graphs : Table Nat KeptGraph := {}

/-- A run that is under way. -/
structure Recording where
  recorder : Recorder
  /-- Whether moments are still reported to the recorder. -/
  tracing : Bool := true
  /-- Whether the script is to be ended after the current moment. -/
  quitting : Bool := false
  output : String := ""
  log : List LogRecord := []

/-- A failure inside the recorder, as the exception that the script sees. -/
def Failure.asException : Failure → ScriptError
  | .script error => error
  | f => ⟨"IndexError", some f.message⟩

/-- A variable as a snapshot shows it, unless its name starts with two underscores. -/
def Variable.shown? (v : Variable) : Except ScriptError (Option (String × String)) :=
  match v.key with
  | .other e => .error e
  | .text name =>
    if ['_', '_'].isPrefixOf name.toList then .ok none
    else do
      let text ← v.value.safelyShown
      match v.upset with
      | none => return some (name, text)
      | some e => throw e

/-- The variables that a snapshot shows. -/
def shownLocals (locals : Namespace) : Except ScriptError (Table String String) := do
  return .ofList ((← locals.entries.mapM Variable.shown?).filterMap id)

namespace Recorder

/-- The graph of a code, and the recorder that keeps it. -/
def graphFor (r : Recorder) (codes : List Bytecode.Code) (n : Nat) :
    Except ScriptError (KeptGraph × Recorder) :=
  match r.graphs.find? n with
  | some kept => .ok (kept, r)
  | none =>
    match codes[n]? with
    | none => .error (Failure.asException .outOfRange)
    | some code =>
      match Bytecode.codeGraph code r.source r.file with
      | .error f => .error f.asException
      | .ok graph =>
        let kept : KeptGraph := ⟨⟨r.number, r.made⟩, graph⟩
        .ok (kept, { r with graphs := r.graphs.insert n kept, made := r.made + 1 })

/-- Whether a code belongs to the recorder's own script. -/
def owns (r : Recorder) (codes : List Bytecode.Code) (n : Nat) : Bool :=
  (codes[n]?).any fun code => code.file = r.file

/-- The graph of a body, if that is a body of this run. -/
def graphOf? (r : Recorder) (id : BodyId) : Option KeptGraph :=
  r.graphs.values.find? fun kept => kept.bodyId = id

/-- The marked places of the given lines in a body. A body that is not of this run has none. -/
def breakpointsFor (r : Recorder) (id : BodyId) (lines : List Int) : Breakpoints :=
  match r.graphOf? id with
  | some kept => kept.graph.breakpointsForLines lines
  | none => {}

end Recorder

namespace Recording

/-- Ask for the script to be ended: no more moments are reported. -/
def setQuit (s : Recording) : Recording := { s with quitting := true, tracing := false }

/-- Ask for the next moment. -/
def setStep (s : Recording) : Recording := { s with quitting := false }

/-- Take a snapshot, or stop at the limit. -/
def record (s : Recording) (codes : List Bytecode.Code) (m : Moment) (position : Position) :
    Except ScriptError Recording :=
  if s.recorder.maxSteps ≤ s.recorder.snapshots.length then
    let noted : Recording := { s with log := s.log ++ [.limitReached s.recorder.maxSteps] }
    .ok noted.setQuit
  else do
    let locals ← shownLocals m.locals
    let (kept, recorder) ← s.recorder.graphFor codes m.code
    let snapshot : Snapshot :=
      { bodyId := kept.bodyId, body := kept.graph.body, position, line := m.line, locals }
    return { s with recorder := { recorder with snapshots := recorder.snapshots ++ [snapshot] } }

theorem record_of_limit {s : Recording} (h : s.recorder.maxSteps ≤ s.recorder.snapshots.length)
    (codes : List Bytecode.Code) (m : Moment) (position : Position) :
    ∃ t, s.record codes m position = .ok t ∧ t.recorder = s.recorder ∧ t.tracing = false ∧
      t.quitting = true := by
  simp only [record, h, if_true]
  exact ⟨_, rfl, rfl, rfl, rfl⟩

/-- A line of the script is about to run. -/
def onLine (s : Recording) (codes : List Bytecode.Code) (m : Moment) :
    Except ScriptError Recording :=
  if s.recorder.owns codes m.code then do
    let (kept, recorder) ← s.recorder.graphFor codes m.code
    let location ← (kept.graph.locationFor m.offset).mapError Failure.asException
    return (← { s with recorder }.record codes m (.place location)).setStep
  else .ok s.setStep

/-- An exception passes through a line of the script. -/
def onException (s : Recording) (codes : List Bytecode.Code) (m : Moment) :
    Except ScriptError Recording :=
  if s.recorder.owns codes m.code then do return (← s.record codes m .unwinding).setStep
  else .ok s.setStep

/-- One event of the session. -/
def step (s : Recording) (codes : List Bytecode.Code) : Event → Except ScriptError Recording
  | .print text => .ok { s with output := s.output ++ text }
  | .line m => if s.tracing then s.onLine codes m else .ok s
  | .exception m => if s.tracing then s.onException codes m else .ok s

/-- The events of a session up to the first that raises, which ends the script. -/
def replay (codes : List Bytecode.Code) : List Event → Recording → Recording × Option ScriptError
  | [], s => (s, none)
  | event :: rest, s =>
    match s.step codes event with
    | .ok s => replay codes rest s
    | .error e => (s, some e)

end Recording

/-- What comes of a run. -/
structure RunResult where
  recorder : Recorder
  outcome : Except Failure (List Snapshot)
  output : String := ""
  log : List LogRecord := []

/-- What comes of a run whose script has ended. An exception that ends the program goes on, but
for the one that only asks for the end. -/
def RunResult.of (s : Recording) (error : Option ScriptError) : RunResult :=
  let finished : RunResult := ⟨s.recorder, .ok s.recorder.snapshots, s.output, s.log⟩
  match error with
  | none => finished
  | some e =>
    if e.isExit then finished
    else if e.endsProgram then { finished with outcome := .error (.script e) }
    else { finished with log := s.log ++ [.scriptRaised e] }

/-- Run a script. What the recorder knew of earlier runs is forgotten first. -/
def Recorder.runScript (r : Recorder) (session : Session) (source : String) : RunResult :=
  let start : Recorder := { r with source, snapshots := [], graphs := {} }
  match session.compileError with
  | some e => { recorder := start, outcome := .error (.script e) }
  | none =>
    let (s, error) := Recording.replay session.codes session.events { recorder := start }
    RunResult.of s (error.or (match session.ending with
      | .finished => none
      | .raised e => some e))

end TraceLens
