import TraceLens.Failure
import TraceLens.Graph.Span

/-!
# Log records

What a run tells besides its result.
-/

namespace TraceLens

inductive LogRecord where
  /-- The text of a span's file cannot be had. -/
  | sourceMissing (region : Region) (fault : SourceFault)
  /-- Recording stopped at its limit. -/
  | limitReached (steps : Int)
  /-- The recorded script ended with an exception. -/
  | scriptRaised (error : ScriptError)
  deriving DecidableEq, Repr

namespace LogRecord

def level : LogRecord → String
  | .sourceMissing .. | .limitReached _ => "WARNING"
  | .scriptRaised _ => "INFO"

def message : LogRecord → String
  | .sourceMissing region fault => "no source for " ++ region.text ++ ": " ++ fault.message
  | .limitReached steps => "stopped after " ++ toString steps ++ " steps"
  | .scriptRaised error => "script raised " ++ error.shown

end LogRecord

end TraceLens
