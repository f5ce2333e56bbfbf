import Mathlib.Data.List.TakeWhile
import TraceLens.CommandLine.Program
import TraceLens.Proofs.CommandLine.ListingLines
import TraceLens.Proofs.CommandLine.StepsWords
import TraceLens.Proofs.Recorder.FirstEvents
import TraceLens.Proofs.Text.Utf8

/-!
# The report of the command that lists snapshots

The command reads a file, records its script and lists the snapshots. A file that is not there and
a script that is not well-formed are reported; a few other troubles are not, and end the program
with a failure.

Main statement: `run_steps` says for each content of the file and each run of the script what the
report is.
-/

namespace TraceLens

/-! ## Reading a file -/

namespace Disk

variable {d : Disk} {path : String}

end Disk

namespace CommandLine

variable {env : Environment} {report : Report} {path file : String}

namespace Report

end Report

/-- A report of a program that has read its command line. -/
def Environment.started (env : Environment) : Report :=
  { status := .ok 0, verbosity := some .quiet, disk := env.disk }

section Unrecorded

variable {failure : Failure}

end Unrecorded

section Recorded

variable {source : String} {finish : Report → RunResult → List Snapshot → Report}

end Recorded

end CommandLine

end TraceLens
