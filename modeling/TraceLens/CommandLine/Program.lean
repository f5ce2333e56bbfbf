import TraceLens.CommandLine.Listing
import TraceLens.CommandLine.Options
import TraceLens.CommandLine.Page
import TraceLens.Source.Path

/-!
# The program

A command line is read, the script that it names is read and recorded, and the snapshots are
listed or one of them is rendered. What the script and the layout process do is given by an
environment; a report says what the program has done.

Main statement: `run_of_stop` says that a command line which cannot be read has no other effect
than a message and a status.
-/

namespace TraceLens.CommandLine

/-- What the program finds outside itself. -/
structure Environment where
  /-- What happens when the script of a file runs. -/
  session : String → Session
  disk : Disk
  scan : Scanner
  layout : Layouter
  /-- The directories of the system. -/
  paths : Table String (Option String)

inductive Verbosity where
  | quiet
  | verbose
  deriving DecidableEq, Repr

/-- What the program has done. -/
structure Report where
  /-- The status, or a failure that nobody handles. -/
  status : Except Failure Nat
  output : String := ""
  errors : String := ""
  log : List LogRecord := []
  /-- What is logged, once the command line has been read. -/
  verbosity : Option Verbosity := none
  invocations : List Layout.Invocation := []
  disk : Disk

namespace Report

/-- The report of a program that stops while it reads its command line. -/
def ofStop (env : Environment) (stop : Stop) : Report :=
  { status := .ok stop.status, output := stop.output, errors := stop.errors, disk := env.disk }

end Report

/-- Text files are read with every line end as a line feed. -/
def readScript (disk : Disk) (file : String) : Except Failure String := do
  match Utf8.decode (← disk.read file) with
  | .error fault => throw (.undecodable fault)
  | .ok text => return String.ofList (Encoding.normalizeNewlines text.toList)

/-- Whether a failure means that there is no script to run, and not that it ran badly. -/
def isUnrunnable : Failure → Bool
  | .file _ => true
  | .script e => e.isSyntax || e.isSystem
  | _ => false

/-- The report of a script of which no recording has come. -/
def unrecorded (report : Report) (file : String) (failure : Failure) : Report :=
  if isUnrunnable failure then
    { report with
      status := .ok 1
      errors := report.errors ++ "cannot run " ++ file ++ ": " ++ failure.message ++ "\n" }
  else { report with status := .error failure }

/-- List the snapshots and what the script has printed. -/
def listSteps (report : Report) (snapshots : List Snapshot) (output : String) : Report :=
  match Listing.rows 0 snapshots with
  | (rows, some failure) =>
    { report with status := .error failure, output := report.output ++ rows }
  | (rows, none) =>
    { report with
      status := .ok 0
      output := report.output ++ rows ++ Listing.programOutput output }

/-- Put a page where it is asked for. An empty name asks for the standard output. -/
def deliver (report : Report) (output : Option String) (page : String) : Report :=
  match output.filter (· ≠ "") with
  | none => { report with status := .ok 0, output := report.output ++ page }
  | some file =>
    match report.disk.write (Path.normal file) (Utf8.encode page) with
    | .error failure => { report with status := .error failure }
    | .ok disk => { report with status := .ok 0, disk }

/-- Deliver the page that has been made, or tell why there is none. -/
def deliverRun (report : Report) (output : Option String) (run : PageRun) : Report :=
  let report : Report := {
    report with
    errors := report.errors ++ run.diagnostics
    log := report.log ++ run.log
    invocations := report.invocations ++ run.invocation.toList }
  match run.page with
  | .ok page => deliver report output page
  | .error (.render fault) =>
    { report with
      status := .ok 1
      errors := report.errors ++ "render failed: " ++ fault.message ++ "\n" }
  | .error failure => { report with status := .error failure }

/-- The snapshot that is asked for, or the report of a run that does not have it. -/
def chosenSnapshot (report : Report) (step : Option Int) (snapshots : List Snapshot) :
    Except Report Snapshot :=
  match step with
  | none => .error { report with status := .error (.absent .step) }
  | some step =>
    match Signed.get? snapshots step with
    | some snapshot => .ok snapshot
    | none => .error {
        report with
        status := .ok 2
        errors := report.errors ++ "no step " ++ toString step ++ "; " ++
          toString snapshots.length ++ " recorded\n" }

/-- Render one snapshot. -/
def renderStep (env : Environment) (report : Report) (theme : Theme) (recorder : Recorder)
    (options : RenderOptions) (snapshots : List Snapshot) : Report :=
  if snapshots.isEmpty then deliver report options.output (Page.empty recorder.file)
  else
    match chosenSnapshot report options.step snapshots with
    | .error report => report
    | .ok snapshot =>
      match options.breakpointLines.mapM id with
      | none => { report with status := .error (.absent .breakpointLine) }
      | some lines =>
        let settings : Settings := { theme }
        let context : PageContext := {
          settings
          layout := env.layout
          highlight := highlightLines env.scan settings.theme.styleTable
          aliases := settings.aliases env.paths }
        deliverRun report options.output (pageOf context recorder lines snapshot)

/-- Record the script of a file, and report on its snapshots with `finish`. -/
def recordFile (env : Environment) (report : Report) (file : String)
    (finish : Report → RunResult → List Snapshot → Report) : Report :=
  match readScript env.disk file with
  | .error failure => unrecorded report file failure
  | .ok source =>
    let recorder : Recorder := { file, maxSteps := ({} : Settings).maxSteps }
    let recorded := recorder.runScript (env.session file) source
    let report := { report with log := recorded.log }
    match recorded.outcome with
    | .error failure => unrecorded report file failure
    | .ok snapshots => finish report recorded snapshots

/-- Do what a command line asks for. -/
def runOptions (env : Environment) (options : Options) : Report :=
  let file := Path.normal options.file
  let report : Report := {
    status := .ok 0
    verbosity := some (if options.verbose then .verbose else .quiet)
    disk := env.disk }
  match options.command with
  | .steps =>
    recordFile env report file fun report recorded snapshots =>
      listSteps report snapshots recorded.output
  | .render asked =>
    match asked.theme with
    | none => { report with status := .error (.absent .theme) }
    | some theme =>
      recordFile env report file fun report recorded snapshots =>
        renderStep env report theme recorded.recorder asked snapshots

/-- Run the program with the words of its command line. -/
def run (env : Environment) (words : List String) : Report :=
  match Options.ofWords words with
  | .error stop => .ofStop env stop
  | .ok options => runOptions env options

theorem run_of_stop {env : Environment} {words : List String} {stop : Stop}
    (h : Options.ofWords words = .error stop) :
    run env words = .ofStop env stop := by
  simp [run, h]

end TraceLens.CommandLine
