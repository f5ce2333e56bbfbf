import TraceLens.Charset.Basic
import TraceLens.Text.Digit
import TraceLens.Text.Quoted
import TraceLens.Text.Utf8

/-!
# Failures

Every way in which an operation can fail, as a cause; the wording of each is given once, by
`message`. A render request fails as a whole with a `RenderFault`; a span whose file cannot be
read fails with a `SourceFault`.
-/

namespace TraceLens

/-- Why a layout request is turned down. -/
inductive LayoutRefusal where
  /-- The engine, in lower case, is none of the known ones. -/
  | unknownEngine (engine : String)
  | unknownFormat (format : String)
  /-- The layout process wrote diagnostics that are no text. -/
  | unreadableDiagnostics (fault : Utf8.Fault)
  deriving DecidableEq, Repr

/-- A layout process that ended with a status other than zero. -/
structure LayoutCrash where
  engine : String
  format : String
  /-- Positive for an exit status, negative for a signal. -/
  status : Int
  diagnostics : List UInt8
  deriving DecidableEq, Repr

/-- A failure of a whole render request. -/
inductive RenderFault where
  | statementOutside (statement : Int) (count : Nat)
  | spanOutside (lo hi : Int) (length : Nat)
  | pointMarked (offset : Int)
  | nothingMarked (lo hi : Int)
  | partlyHighlighted (covered length : Nat)
  | noDrawing
  | layoutRefused (refusal : LayoutRefusal)
  | layoutMissing
  /-- The engine is named as the request has it. -/
  | layoutFailed (engine : String) (crash : LayoutCrash)
  deriving DecidableEq, Repr

/-- Why the text of a file cannot be had. -/
inductive SourceFault where
  /-- A name in angle brackets stands for code without a file. -/
  | generated (file : String)
  | unreadable (file : String)
  deriving DecidableEq, Repr

/-- A failed access to a file of the disk. -/
inductive FileFault where
  | missing (path : String)
  | directory (path : String)
  | parentIsFile (path : String)
  | nameTooLong (path : String)
  deriving DecidableEq, Repr

/-- A value that is needed but was not given. -/
inductive Absence where
  /-- The line number of a snapshot that is listed. -/
  | line
  /-- What the option that asks for a snapshot, a marked line or a theme should say. -/
  | step
  | breakpointLine
  | theme
  /-- The limit on the number of snapshots, and the position among them, as whole numbers. -/
  | limit
  | position
  deriving DecidableEq, Repr

/-- Why a setting is not accepted. -/
inductive SettingCause where
  | notListed
  | notText
  | notTable
  | notInteger
  | unreadableInteger
  | tooLong
  | fractional
  | infinite
  | tooSmall
  deriving DecidableEq, Repr

structure SettingFault where
  path : List String
  cause : SettingCause
  deriving DecidableEq, Repr

/-- The built-in classes of exceptions that are told apart by someone who takes an exception. The
last four are ordinary ones. -/
inductive BaseError where
  /-- A request for the end of the program. -/
  | exit
  | ordinary
  /-- A script that is not well formed. -/
  | malformed
  /-- An error of the operating system. -/
  | system
  /-- A failed look-up of a key. -/
  | key
  deriving DecidableEq, Repr

/-- A class of exceptions: its name, and the classes above that it is or descends from. One that
descends from none of them stands beside the ordinary ones. -/
structure ErrorClass where
  name : String
  bases : List BaseError
  deriving DecidableEq, Repr

/-- An exception of the recorded script: its class and, if it has one, its argument. -/
structure ScriptError where
  errorClass : ErrorClass
  argument : Option String
  deriving DecidableEq, Repr

inductive Failure where
  /-- A position outside its list. -/
  | outOfRange
  /-- A name that a table does not know. -/
  | unknownName (name : String)
  /-- A terminator that does not say what it does has no text. -/
  | unspecifiedTerminator
  | absent (value : Absence)
  | undecodable (fault : Utf8.Fault)
  /-- The bytes of a script are no text in the encoding that it declares. -/
  | charset (fault : Charset.Fault)
  | unknownTheme (name : String)
  | unsupportedLanguage (name : String)
  | invalidSettings (faults : List SettingFault)
  | file (fault : FileFault)
  /-- A path with a NUL character names no file. -/
  | nulInPath
  /-- A process that cannot be started, with the number of the system's error. -/
  | process (errno : Int)
  | script (error : ScriptError)
  /-- A text that should be an integer. -/
  | integer (fault : Digit.IntegerFault)
  /-- A floating-point number that is not a number has no integer. -/
  | notNumber
  /-- A whole number that no floating-point number is near to, or the other way round. -/
  | beyondRange
  /-- A slider needs more than one position. -/
  | singlePosition
  | render (fault : RenderFault)
  | source (fault : SourceFault)
  deriving DecidableEq, Repr

namespace LayoutRefusal

def engines : List String :=
  ["circo", "dot", "fdp", "neato", "osage", "patchwork", "sfdp", "twopi"]

def formats : List String :=
  ["bmp", "canon", "cgimage", "cmap", "cmapx", "cmapx_np", "dot", "dot_json", "eps", "exr", "fig",
    "gd", "gd2", "gif", "gtk", "gv", "ico", "imap", "imap_np", "ismap", "jp2", "jpe", "jpeg", "jpg",
    "json", "json0", "pct", "pdf", "pic", "pict", "plain", "plain-ext", "png", "pov", "ps", "ps2",
    "psd", "sgi", "svg", "svg_inline", "svgz", "tga", "tif", "tiff", "tk", "vml", "vmlz", "vrml",
    "wbmp", "webp", "x11", "xdot", "xdot1.2", "xdot1.4", "xdot_json", "xlib"]

def message : LayoutRefusal → String
  | .unknownEngine engine =>
    "unknown engine: " ++ Quoted.quote engine ++ " (must be one of " ++
      Quoted.quoteList engines ++ ")"
  | .unknownFormat format =>
    "unknown format: " ++ Quoted.quote format ++ " (must be one of " ++
      Quoted.quoteList formats ++ ")"
  | .unreadableDiagnostics fault => fault.message

end LayoutRefusal

namespace LayoutCrash

/-- The names of the signals of the system. -/
def signals : List (Nat × String) :=
  [(1, "SIGHUP"), (2, "SIGINT"), (3, "SIGQUIT"), (4, "SIGILL"), (5, "SIGTRAP"), (6, "SIGABRT"),
    (7, "SIGBUS"), (8, "SIGFPE"), (9, "SIGKILL"), (10, "SIGUSR1"), (11, "SIGSEGV"),
    (12, "SIGUSR2"), (13, "SIGPIPE"), (14, "SIGALRM"), (15, "SIGTERM"), (16, "SIGSTKFLT"),
    (17, "SIGCHLD"), (18, "SIGCONT"), (19, "SIGSTOP"), (20, "SIGTSTP"), (21, "SIGTTIN"),
    (22, "SIGTTOU"), (23, "SIGURG"), (24, "SIGXCPU"), (25, "SIGXFSZ"), (26, "SIGVTALRM"),
    (27, "SIGPROF"), (28, "SIGWINCH"), (29, "SIGIO"), (30, "SIGPWR"), (31, "SIGSYS"),
    (34, "SIGRTMIN"), (64, "SIGRTMAX")]

def ending (status : Int) : String :=
  if status < 0 then
    let n := status.natAbs
    match signals.lookup n with
    | some name => "died with <Signals." ++ name ++ ": " ++ toString n ++ ">."
    | none => "died with unknown signal " ++ toString n ++ "."
  else "returned non-zero exit status " ++ toString status ++ "."

def message (c : LayoutCrash) : String :=
  "Command '[PosixPath('dot'), " ++ Quoted.quote ("-K" ++ c.engine) ++ ", " ++
    Quoted.quote ("-T" ++ c.format) ++ "]' " ++ ending c.status ++
    " [stderr: " ++ Quoted.quoteBytes c.diagnostics ++ "]"

end LayoutCrash

def RenderFault.message : RenderFault → String
  | .statementOutside i n =>
    "statement index " ++ toString i ++ " outside block of " ++ toString n ++ " statements"
  | .spanOutside lo hi n =>
    "span offsets " ++ toString lo ++ ".." ++ toString hi ++ " invalid for text of " ++
      toString n ++ " chars"
  | .pointMarked at_ => "zero-width span at " ++ toString at_ ++ " produced marked content"
  | .nothingMarked lo hi =>
    "span " ++ toString lo ++ ".." ++ toString hi ++ " produced no marked content"
  | .partlyHighlighted i n =>
    "highlighter covered " ++ toString i ++ " of " ++ toString n ++ " chars"
  | .noDrawing => "layout engine returned no <svg> element"
  | .layoutRefused refusal => "graphviz rejected the layout request: " ++ refusal.message
  | .layoutMissing =>
    "graphviz executable not found: failed to execute PosixPath('dot'), " ++
      "make sure the Graphviz executables are on your systems' PATH"
  | .layoutFailed engine crash => "graphviz " ++ engine ++ " failed: " ++ crash.message

def SourceFault.message : SourceFault → String
  | .generated file => "<no source info for " ++ file ++ ">"
  | .unreadable file => "<couldn't get lines for " ++ file ++ ">"

namespace FileFault

def errno : FileFault → Nat
  | .missing _ => 2
  | .directory _ => 21
  | .parentIsFile _ => 20
  | .nameTooLong _ => 36

def message : FileFault → String
  | .missing path => "[Errno 2] No such file or directory: " ++ Quoted.quote path
  | .directory path => "[Errno 21] Is a directory: " ++ Quoted.quote path
  | .parentIsFile path => "[Errno 20] Not a directory: " ++ Quoted.quote path
  | .nameTooLong path => "[Errno 36] File name too long: " ++ Quoted.quote path

end FileFault

namespace ErrorClass

/-- The built-in classes that are not just ordinary ones, with what they descend from. -/
def builtIn : List (String × List BaseError) :=
  (["SyntaxError", "IndentationError", "TabError"].map (·, [.malformed])) ++
    (["OSError", "IOError", "EnvironmentError", "BlockingIOError", "ChildProcessError",
      "ConnectionError", "BrokenPipeError", "ConnectionAbortedError", "ConnectionRefusedError",
      "ConnectionResetError", "FileExistsError", "FileNotFoundError", "InterruptedError",
      "IsADirectoryError", "NotADirectoryError", "PermissionError", "ProcessLookupError",
      "TimeoutError"].map (·, [.system])) ++
    [("KeyError", [.key]), ("SystemExit", [.exit])] ++
    (["BaseException", "BaseExceptionGroup", "KeyboardInterrupt", "GeneratorExit"].map (·, []))

/-- The class of a name that the script has not given to a class of its own. -/
def ofName (name : String) : ErrorClass := ⟨name, (builtIn.lookup name).getD [.ordinary]⟩

instance : Coe String ErrorClass := ⟨ofName⟩

/-- Whether a class is an ordinary one. -/
def isOrdinary (c : ErrorClass) : Bool := c.bases.any (· ≠ .exit)

end ErrorClass

namespace ScriptError

/-- The name of the class of an exception. -/
def kind (e : ScriptError) : String := e.errorClass.name

/-- Whether an exception is of a class or of one that descends from it. -/
def isA (e : ScriptError) (base : BaseError) : Bool := e.errorClass.bases.contains base

/-- An exception as it is shown: its class with its argument in parentheses. -/
def shown (e : ScriptError) : String :=
  e.kind ++ "(" ++ ((e.argument.map Quoted.quote).getD "") ++ ")"

/-- Whether an exception says that the script is not well formed. -/
def isSyntax (e : ScriptError) : Bool := e.isA .malformed

/-- The text of an exception: its argument, which a failed key look-up shows quoted. -/
def text (e : ScriptError) : String :=
  match e.argument with
  | none => if e.isSyntax then "None" else ""
  | some argument => if e.isA .key then Quoted.quote argument else argument

/-- Whether no handler of ordinary exceptions takes an exception. -/
def endsProgram (e : ScriptError) : Bool := !e.errorClass.isOrdinary

/-- Whether an exception asks for the end of the program. -/
def isExit (e : ScriptError) : Bool := e.isA .exit

/-- Whether an exception stands for an error of the operating system. -/
def isSystem (e : ScriptError) : Bool := e.isA .system

end ScriptError

def SettingCause.code : SettingCause → String
  | .notListed => "enum"
  | .notText => "string_type"
  | .notTable => "dict_type"
  | .notInteger => "int_type"
  | .unreadableInteger => "int_parsing"
  | .tooLong => "int_parsing_size"
  | .fractional => "int_from_float"
  | .infinite => "finite_number"
  | .tooSmall => "greater_than"

/-- The text of a failure, empty where the cause says it all. -/
def Failure.message : Failure → String
  | .outOfRange => "list index out of range"
  | .unknownName name => name
  | .unspecifiedTerminator => ""
  | .absent _ => ""
  | .undecodable fault => fault.message
  | .charset _ => ""
  | .unknownTheme name => Quoted.quote name ++ " is not a valid Theme"
  | .unsupportedLanguage name => "Unsupported for pygments: " ++ name
  | .invalidSettings _ => ""
  | .file fault => fault.message
  | .nulInPath => "embedded null byte"
  | .process errno => toString errno
  | .script error => error.text
  | .integer fault => fault.message
  | .notNumber => "cannot convert float NaN to integer"
  | .beyondRange => ""
  | .singlePosition => ""
  | .render fault => fault.message
  | .source fault => fault.message

end TraceLens
