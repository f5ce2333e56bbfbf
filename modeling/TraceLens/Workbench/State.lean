import TraceLens.Highlight.Cache
import TraceLens.Recorder.Run
import TraceLens.Style.Theme

/-!
# The state of a workbench

What lives on from one rerun to the next: the last recorded script with its snapshots, and a
highlight cache for each theme that has been shown.

Main statements: `record_error` says that a script which cannot be run changes nothing, and
`record_ok` that otherwise the recorder is the one that ran the source.
-/

namespace TraceLens.Workbench

/-- The file name of what the editor holds. -/
def scriptName : String := "<editor>"

structure State where
  snapshots : List Snapshot := []
  /-- What the recorded script has printed. -/
  output : String := ""
  recorder : Option Recorder := none
  /-- How many recorders have been kept so far, which is the number of the next one. -/
  recorders : Nat := 0
  source : String := ""
  caches : Table Theme HighlightCache := {}

namespace State

/-- Run a script with a new recorder, and keep what it has recorded. -/
def record (s : State) (session : Session) (source : String) (maxSteps : Int) :
    State × Except Failure Unit × List LogRecord :=
  let recorder : Recorder := { file := scriptName, maxSteps, number := s.recorders }
  let run := recorder.runScript session source
  match run.outcome with
  | .error failure => (s, .error failure, run.log)
  | .ok snapshots =>
    let recorded : State :=
      { s with
        recorder := some run.recorder
        recorders := s.recorders + 1
        snapshots
        output := run.output
        source }
    (recorded, .ok (), run.log)

theorem record_error {s : State} {session : Session} {source : String} {maxSteps : Int}
    {failure : Failure} (h : (s.record session source maxSteps).2.1 = .error failure) :
    (s.record session source maxSteps).1 = s := by
  unfold record at h ⊢
  simp only at h ⊢
  split at h
  · rfl
  · simp at h

theorem record_ok {s : State} {session : Session} {source : String} {maxSteps : Int}
    (h : (s.record session source maxSteps).2.1 = .ok ()) :
    ∃ r, (s.record session source maxSteps).1.recorder = some r ∧
      (s.record session source maxSteps).1.source = source ∧
      r = (({ file := scriptName, maxSteps, number := s.recorders } : Recorder).runScript session
        source).recorder := by
  unfold record at h ⊢
  simp only at h ⊢
  split at h
  · simp at h
  · exact ⟨_, rfl, rfl, rfl⟩

/-- Forget the snapshots and their recorder. -/
def clear (s : State) : State := { s with snapshots := [], recorder := none }

/-- The highlight cache of a theme. -/
def cache (s : State) (theme : Theme) : HighlightCache := (s.caches.find? theme).getD {}

def storeCache (s : State) (theme : Theme) (cache : HighlightCache) : State :=
  { s with caches := s.caches.insert theme cache }

@[simp] theorem cache_storeCache_self (s : State) (theme : Theme) (cache : HighlightCache) :
    (s.storeCache theme cache).cache theme = cache := by
  simp [State.cache, storeCache]

/-- The marked places of some lines in the body of a snapshot. -/
def breakpoints (s : State) (snapshot : Snapshot) (lines : List Nat) : Breakpoints :=
  match s.recorder with
  | none => {}
  | some recorder => recorder.breakpointsFor snapshot.bodyId (lines.map Int.ofNat)

end State

end TraceLens.Workbench
