import TraceLens.Failure
import TraceLens.Graph.Span

/-!
# Terminators

How a block ends: what the ending is written as, where control goes from it with which label,
and which of these ways are normal and which unwind.
-/

namespace TraceLens

/-- The part a successor plays. -/
inductive Role where
  | normal
  | unwind
  deriving DecidableEq, Repr

def Role.name : Role → String
  | .normal => "normal"
  | .unwind => "unwind"

/-- The ways in which a block can end. Targets are block numbers and are not checked. -/
inductive Ending where
  /-- Nothing is known about the ending. -/
  | unspecified
  | goto (target : Int)
  | switch (subject : String) (branches : List (String × Int)) (otherwise : Int)
  | ret
  | resume
  | unreachable
  | drop (place : String) (target : Int) (cleanup : Option Int) (replacement : Option String)
  | call (function : String) (arguments : List String) (place : Option String)
      (target cleanup : Option Int)
  | assert (condition : String) (expected : Bool) (message : String) (target : Int)
      (cleanup : Option Int)
  deriving DecidableEq, Repr

namespace Ending

/-- The kind and operands of an ending, without its successors. -/
def head : Ending → Except Failure String
  | .unspecified => .error .unspecifiedTerminator
  | .goto _ => .ok "goto"
  | .switch subject _ _ => .ok ("switchInt(" ++ subject ++ ")")
  | .ret => .ok "return"
  | .resume => .ok "resume"
  | .unreachable => .ok "unreachable"
  | .drop place _ _ none => .ok ("drop(" ++ place ++ ")")
  | .drop place _ _ (some value) => .ok ("replace(" ++ place ++ " <- " ++ value ++ ")")
  | .call function arguments place _ _ =>
    let call := function ++ "(" ++ ", ".intercalate arguments ++ ")"
    match place with
    | some place => .ok (if place = "" then call else place ++ " = " ++ call)
    | none => .ok call
  | .assert condition expected message _ _ =>
    .ok ("assert(" ++ (if expected then "" else "!") ++ condition ++ ", \"" ++ message ++ "\")")

/-- An optional target with the label or role of its edge. -/
def edge? {α : Type} (target : Option Int) (tag : α) : List (Int × α) :=
  target.toList.map fun t => (t, tag)

/-- The targets of an ending with the labels of their edges, in display order. -/
def successors : Ending → List (Int × String)
  | .goto target => [(target, "")]
  | .switch _ branches otherwise =>
    branches.map (fun b => (b.2, b.1)) ++ [(otherwise, "otherwise")]
  | .drop _ target cleanup _ => (target, "return") :: edge? cleanup "unwind"
  | .call _ _ _ target cleanup => edge? target "return" ++ edge? cleanup "unwind"
  | .assert _ _ _ target cleanup => (target, "success") :: edge? cleanup "unwind"
  | .unspecified | .ret | .resume | .unreachable => []

/-- The successors that the overlay of the current position colours, with their roles. An
assertion reports none. -/
def flow : Ending → List (Int × Role)
  | .goto target => [(target, .normal)]
  | .switch subject branches otherwise =>
    (successors (.switch subject branches otherwise)).map fun s => (s.1, .normal)
  | .drop _ target cleanup _ => (target, .normal) :: edge? cleanup .unwind
  | .call _ _ _ target cleanup => edge? target .normal ++ edge? cleanup .unwind
  | .unspecified | .ret | .resume | .unreachable | .assert .. => []

end Ending

/-- How a block ends, and the source of the ending. -/
structure Terminator where
  span : Span
  ending : Ending
  deriving DecidableEq, Repr

end TraceLens
