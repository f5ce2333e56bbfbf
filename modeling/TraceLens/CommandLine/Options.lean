import TraceLens.CommandLine.Usage
import TraceLens.Style.Theme

/-!
# Options

What a command line asks for. Options of the program stand before the name of a command, those of
the command after it, and what the command does not take is left to the program, which refuses it.
-/

namespace TraceLens.CommandLine

/-- What is asked about the page of a snapshot. An option can be given without its value. -/
structure RenderOptions where
  /-- The position of the snapshot, from the end if it is negative. -/
  step : Option Int := some (-1)
  /-- The lines that are marked, in the order given. -/
  breakpointLines : List (Option Int) := []
  theme : Option Theme := some .solarizedDark
  /-- Where the page is written, if not to the standard output. -/
  output : Option String := none
  deriving DecidableEq, Repr

inductive Command where
  | steps
  | render (options : RenderOptions)
  deriving DecidableEq, Repr

structure Options where
  verbose : Bool
  command : Command
  /-- The script. -/
  file : String
  deriving DecidableEq, Repr

/-- Why a value is not accepted. -/
inductive ValueFault where
  | notInteger (value : String)
  | notListed (value : String) (choices : List String)
  deriving DecidableEq, Repr

def ValueFault.message : ValueFault → String
  | .notInteger value => "invalid int value: " ++ Quoted.quote value
  | .notListed value choices =>
    "invalid choice: " ++ Quoted.quote value ++ " (choose from " ++
      ", ".intercalate (choices.map Quoted.quote) ++ ")"

/-- A value of an argument called `title`, or the end of the program. -/
def accept {α : Type} (topic : Topic) (title : String) : Except ValueFault α → Except Stop α
  | .ok a => .ok a
  | .error fault => .error (topic.misused ("argument " ++ title ++ ": " ++ fault.message))

def integerValue (value : String) : Except ValueFault Int :=
  (Digit.readInt value).mapError fun _ => .notInteger value

def themeValue (value : String) : Except ValueFault Theme :=
  ((Theme.ofOption? value).map Except.ok).getD
    (.error (.notListed value (Theme.all.map Theme.option)))

/-! ## The command that lists the snapshots -/

inductive StepsOption where
  | help

def stepsGrammar : Grammar StepsOption String where
  options := [⟨.help, ["-h", "--help"], false⟩]
  takesRest := false
  takeOption _ _ _ := .error Topic.steps.helped
  takeArgument words _ := .ok (words.headD "")
  misuse := Topic.steps.misused

/-! ## The command that renders a snapshot -/

inductive RenderOption where
  | help
  | step
  | breakpoint
  | theme
  | output

/-- Take an option of the command with its value. -/
def takeRenderOption (o : OptionSpec RenderOption) (value : Option String)
    (state : RenderOptions × String) : Except Stop (RenderOptions × String) := do
  let (options, file) := state
  match o.tag with
  | .help => throw Topic.render.helped
  | .step =>
    let step ← value.mapM fun text => accept .render o.title (integerValue text)
    return ({ options with step }, file)
  | .breakpoint =>
    let line ← value.mapM fun text => accept .render o.title (integerValue text)
    return ({ options with breakpointLines := options.breakpointLines ++ [line] }, file)
  | .theme =>
    let theme ← value.mapM fun text => accept .render o.title (themeValue text)
    return ({ options with theme }, file)
  | .output => return ({ options with output := value }, file)

def renderGrammar : Grammar RenderOption (RenderOptions × String) where
  options := [⟨.help, ["-h", "--help"], false⟩, ⟨.step, ["--step"], true⟩,
    ⟨.breakpoint, ["--break"], true⟩, ⟨.theme, ["--theme"], true⟩,
    ⟨.output, ["-o", "--output"], true⟩]
  takesRest := false
  takeOption := takeRenderOption
  takeArgument words state := .ok (state.1, words.headD "")
  misuse := Topic.render.misused

/-! ## The program -/

inductive ProgramOption where
  | help
  | verbose

/-- What has been read of a command line. -/
structure Draft where
  verbose : Bool := false
  /-- The command with its script, and the words that it leaves over. -/
  command : Option (Command × String × List String) := none

def commandNames : List String := ["steps", "render"]

/-- Read the name of a command and the words after it. -/
def readCommand (words : List String) : Except Stop (Command × String × List String) := do
  let (name, rest) := (words.headD "", words.drop 1)
  if name = "steps" then
    let (file, left) ← stepsGrammar.read "file" "" rest
    return (.steps, file, left)
  else if name = "render" then
    let ((options, file), left) ← renderGrammar.read "file" ({}, "") rest
    return (.render options, file, left)
  else accept .program "cmd" (.error (.notListed name commandNames))

def programGrammar : Grammar ProgramOption Draft where
  options := [⟨.help, ["-h", "--help"], false⟩, ⟨.verbose, ["-v", "--verbose"], false⟩]
  takesRest := true
  takeOption o _ draft :=
    match o.tag with
    | .help => .error Topic.program.helped
    | .verbose => .ok { draft with verbose := true }
  takeArgument words draft := do return { draft with command := some (← readCommand words) }
  misuse := Topic.program.misused

/-- Read the words of a command line. -/
def Options.ofWords (words : List String) : Except Stop Options := do
  let (draft, left) ← programGrammar.read "cmd" {} words
  match draft.command with
  | none => throw (Topic.program.misused "the following arguments are required: cmd")
  | some (command, file, left') =>
    if (left ++ left').isEmpty then return ⟨draft.verbose, command, file⟩
    else
      let unknown := " ".intercalate (left ++ left')
      throw (Topic.program.misused ("unrecognized arguments: " ++ unknown))

end TraceLens.CommandLine
