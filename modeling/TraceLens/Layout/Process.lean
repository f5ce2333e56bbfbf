import TraceLens.Failure
import TraceLens.Text.LowerCase

/-!
# The layout process

A drawing is laid out by another program, started once per request. The request is checked before
the program is started; what the program does is given as a `ProcessEnd`.

Main statement: `render_invocation` says that a request with a known engine and format starts the
process, and any other does not.
-/

namespace TraceLens.Layout

structure Request where
  engine : String := "dot"
  format : String := "svg"
  /-- The drawing in the DOT language. -/
  source : String
  deriving DecidableEq, Repr

/-- What becomes of a process. -/
inductive ProcessEnd where
  /-- It cannot be started, for the reason that the system's error number gives. -/
  | unstarted (errno : Int)
  | ended (output diagnostics : List UInt8) (status : Int)
  deriving DecidableEq, Repr

/-- An attempt to start a process: its engine, its format, and the text that it reads. -/
structure Invocation where
  engine : String
  format : String
  input : String
  deriving DecidableEq, Repr

/-- The words of the command that starts a process. -/
def Invocation.command (i : Invocation) : List String := ["dot", "-K" ++ i.engine, "-T" ++ i.format]

/-- What comes of a request. -/
structure Run where
  invocation : Option Invocation := none
  /-- What the process wrote for its user. -/
  diagnostics : String := ""
  drawing : Except Failure (List UInt8)

/-- A drawing as the process reads it: a text that is not empty ends in a line feed. -/
def inputText (source : String) : String :=
  if source = "" ∨ source.toList.getLast? = some '\n' then source else source ++ "\n"

def Run.failed (invocation : Option Invocation) (fault : RenderFault) : Run :=
  { invocation, drawing := .error (.render fault) }

/-- The result of a process. One that cannot be started reads nothing; of one that has ended,
diagnostics that are no text count before the status. -/
def Run.ofEnd (request : Request) (invocation : Invocation) : ProcessEnd → Run
  | .unstarted errno =>
    let invocation := some { invocation with input := "" }
    if errno = 2 then .failed invocation .layoutMissing
    else { invocation, drawing := .error (.process errno) }
  | .ended output diagnostics status =>
    match Utf8.decode diagnostics with
    | .error fault => .failed invocation (.layoutRefused (.unreadableDiagnostics fault))
    | .ok text => {
        invocation
        diagnostics := text
        drawing :=
          if status = 0 then .ok output
          else .error (.render (.layoutFailed request.engine
            ⟨invocation.engine, invocation.format, status, diagnostics⟩)) }

/-- Lay a drawing out with a process that ends as given. -/
def render (request : Request) (process : ProcessEnd) : Run :=
  let engine := LowerCase.lower request.engine
  if !LayoutRefusal.engines.contains engine then
    .failed none (.layoutRefused (.unknownEngine engine))
  else if !LayoutRefusal.formats.contains (LowerCase.lower request.format) then
    .failed none (.layoutRefused (.unknownFormat request.format))
  else .ofEnd request ⟨engine, request.format, inputText request.source⟩ process

theorem render_invocation (request : Request) (process : ProcessEnd) :
    (render request process).invocation.isSome =
      (LayoutRefusal.engines.contains (LowerCase.lower request.engine) &&
        LayoutRefusal.formats.contains (LowerCase.lower request.format)) := by
  unfold render
  simp only
  split
  · rename_i h
    rw [Bool.not_eq_true'] at h
    rw [h]; rfl
  · split
    · rename_i h
      rw [Bool.not_eq_true'] at h
      rw [h, Bool.and_false]; rfl
    · rename_i h₁ h₂
      simp only [Bool.not_eq_true', Bool.not_eq_false] at h₁ h₂
      rw [h₁, h₂]
      cases process with
      | unstarted errno => simp only [Run.ofEnd]; split <;> rfl
      | ended output diagnostics status => simp only [Run.ofEnd]; split <;> rfl

end TraceLens.Layout
