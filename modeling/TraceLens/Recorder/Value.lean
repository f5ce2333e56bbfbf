import TraceLens.Failure
import TraceLens.Text.Quoted
import TraceLens.Text.ShortDecimal

/-!
# Values of variables

How a value of the recorded script is shown. Showing a value runs code of the script, which may
raise an exception. An ordinary one is shown in place of the value, and that runs code of the script
once more; any other one goes on.
-/

namespace TraceLens

inductive Value where
  | absent
  | flag (value : Bool)
  | integer (value : Int)
  /-- A number with a point. -/
  | decimal (value : Float)
  | text (value : String)
  | items (values : List Value)
  /-- An object that shows itself as the given text. -/
  | shownAs (text : String)
  /-- An object that raises when it is to be shown. The exception may itself raise `again` when it
  is to be shown. -/
  | faulty (error : ScriptError) (again : Option ScriptError := none)
  deriving Inhabited

/-- What a value raises instead of being shown. -/
structure Refusal where
  error : ScriptError
  /-- What the exception raises if it cannot be shown either. -/
  again : Option ScriptError
  deriving DecidableEq, Repr

namespace Value

mutual

/-- A value as the script shows it. -/
def shown : Value → Except Refusal String
  | .absent => .ok "None"
  | .flag true => .ok "True"
  | .flag false => .ok "False"
  | .integer n => .ok (toString n)
  | .decimal x => .ok (ShortDecimal.ofFloat x)
  | .text s => .ok (Quoted.quote s)
  | .items vs => do return "[" ++ ", ".intercalate (← allShown vs) ++ "]"
  | .shownAs s => .ok s
  | .faulty error again => .error ⟨error, again⟩

def allShown : List Value → Except Refusal (List String)
  | [] => .ok []
  | v :: vs => do return (← shown v) :: (← allShown vs)

end

/-- A value as a snapshot shows it. -/
def safelyShown (v : Value) : Except ScriptError String :=
  match v.shown with
  | .ok s => .ok s
  | .error ⟨e, again⟩ =>
    if e.endsProgram then .error e
    else match again with
      | none => .ok ("<repr failed: " ++ e.shown ++ ">")
      | some e' => .error e'

end Value

end TraceLens
