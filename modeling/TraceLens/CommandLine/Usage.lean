import TraceLens.CommandLine.Words

/-!
# Usage and help

What the command line tells about itself: a usage for each of its grammars, and a help that starts
with the usage.
-/

namespace TraceLens.CommandLine

/-- The grammars of the command line: before the name of a command, and after it. -/
inductive Topic where
  | program
  | steps
  | render
  deriving DecidableEq, Repr

namespace Topic

/-- How the program calls itself. -/
def title : Topic → String
  | program => "stepview"
  | steps => "stepview steps"
  | render => "stepview render"

def usage : Topic → String
  | program => "usage: stepview [-h] [-v] \x7bsteps,render\x7d ...\n"
  | steps => "usage: stepview steps [-h] file\n"
  | render =>
    "usage: stepview render [-h] [--step STEP] [--break LINE]\n" ++
    "                       [--theme " ++
      "\x7bsolarized_dark,solarized_light,monokai,friendly,default\x7d]\n" ++
    "                       [-o OUTPUT]\n" ++
    "                       file\n"

/-- What a help says after the usage. -/
def details : Topic → String
  | program =>
    "\nStep through a Python script and render CFG/source panes\n" ++
    "\npositional arguments:\n" ++
    "  \x7bsteps,render\x7d\n" ++
    "    steps         List the recorded execution snapshots\n" ++
    "    render        Render one snapshot to an HTML page\n" ++
    "\noptions:\n" ++
    "  -h, --help      show this help message and exit\n" ++
    "  -v, --verbose   Log timings and layout calls\n"
  | steps =>
    "\npositional arguments:\n" ++
    "  file\n" ++
    "\noptions:\n" ++
    "  -h, --help  show this help message and exit\n"
  | render =>
    "\npositional arguments:\n" ++
    "  file\n" ++
    "\noptions:\n" ++
    "  -h, --help            show this help message and exit\n" ++
    "  --step STEP           Snapshot index (default: last)\n" ++
    "  --break LINE          Mark a breakpoint on a source line (repeatable)\n" ++
    "  --theme \x7bsolarized_dark,solarized_light,monokai,friendly,default\x7d\n" ++
    "  -o OUTPUT, --output OUTPUT\n" ++
    "                        Write the page here instead of stdout\n"

def help (t : Topic) : String := t.usage ++ t.details

/-- The end of the program after it has shown a help. -/
def helped (t : Topic) : Stop := { status := 0, output := t.help }

/-- The end of the program on a misused command line. -/
def misused (t : Topic) (message : String) : Stop :=
  { status := 2, errors := t.usage ++ t.title ++ ": error: " ++ message ++ "\n" }

end Topic

end TraceLens.CommandLine
