import TraceLens.Layout.Process
import TraceLens.Text.FixedPoint
import TraceLens.Workbench.Clock
import TraceLens.Workbench.Element
import TraceLens.Workbench.State

/-!
# Actions of a rerun

A rerun goes through the page from the top. On its way it shows elements, looks at the clock and
changes the state, until it comes to its end, is stopped, or fails; what it has done until then
stays done.
-/

namespace TraceLens.Workbench

/-- Why a rerun ends before the end of the page. -/
inductive Interruption where
  | stopped
  | failed (failure : Failure)

/-- What a rerun has done so far. -/
structure Progress where
  state : State
  /-- What the clock will show, at one look after the other. -/
  clock : List Instant
  elements : List (Place × Element) := []
  log : List LogRecord := []
  invocations : List Layout.Invocation := []
  /-- How many groups of columns there are. -/
  columnGroups : Nat := 0
  /-- How many groups of tabs there are. -/
  tabGroups : Nat := 0

abbrev Action := ExceptT Interruption (StateM Progress)

namespace Action

def stop {α : Type} : Action α := throw .stopped

def fail {α : Type} (failure : Failure) : Action α := throw (.failed failure)

/-- The value of a step, whose failure fails the rerun. -/
def ofExcept {α : Type} : Except Failure α → Action α
  | .ok a => pure a
  | .error failure => fail failure

def getState : Action State := return (← get).state

def setState (state : State) : Action Unit := modify fun p => { p with state }

def addLog (log : List LogRecord) : Action Unit := modify fun p => { p with log := p.log ++ log }

def addInvocation (invocation : Option Layout.Invocation) : Action Unit :=
  modify fun p => { p with invocations := p.invocations ++ invocation.toList }

/-- Show an element at a place. -/
def put (place : Place) (element : Element) : Action Unit :=
  modify fun p => { p with elements := p.elements ++ [(place, element)] }

/-- Show a group of columns at a place; the result is the place of each column. -/
def columns (place : Place) (count : Nat) : Action (List Place) := do
  put place (.columns count)
  let group := (← get).columnGroups
  modify fun p => { p with columnGroups := group + 1 }
  return (List.range count).map fun n => place ++ [.column group n]

/-- Show a group of tabs at a place; the result is the place of each tab. -/
def tabs (place : Place) (labels : List String) : Action (List Place) := do
  put place (.tabs labels)
  let group := (← get).tabGroups
  modify fun p => { p with tabGroups := group + 1 }
  return (List.range labels.length).map fun n => place ++ [.tab group n]

/-- What the clock shows; once it has stopped it shows zero. -/
def tick : Action Instant :=
  modifyGet fun p => (p.clock.headD (.fraction 0.0), { p with clock := p.clock.drop 1 })

/-- The result of some work with the milliseconds that it took. Work that fails is not timed. -/
def timed {ε α : Type} (work : Action (Except ε α)) : Action (Except ε (α × Float)) := do
  let start ← tick
  match ← work with
  | .error e => return .error e
  | .ok a => return .ok (a, ← ofExcept (start.milliseconds (← tick)))

/-- Show durations at the given places; one that is not known is shown as zero. -/
def putDurations : List (Place × String × Option Float) → Action Unit
  | [] => pure ()
  | (place, label, duration) :: rest => do
    put place (.metric label (FixedPoint.oneDecimal (duration.getD 0.0) ++ " ms"))
    putDurations rest

/-- Show durations in columns of their own. -/
def badge (place : Place) (durations : List (String × Option Float)) : Action Unit := do
  let places ← columns place durations.length
  putDurations (places.zip durations)

end Action

end TraceLens.Workbench
