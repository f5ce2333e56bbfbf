import TraceLens.Graph.Terminator
import TraceLens.Signed

/-!
# Bodies

A body is a list of basic blocks. Places in it are named by a block and a statement index, where
the index after the last statement names the terminator; both may count from the end.

Main statement: `spanAt_statement` and `spanAt_terminator` read the source of a place inside a
body.
-/

namespace TraceLens

/-- A place in a body: a block and the index of a statement in it. -/
structure Location where
  block : Int
  statement : Int
  deriving DecidableEq, Repr

/-- A location as it is shown to the user. -/
def Location.text (l : Location) : String :=
  "Location(block=" ++ toString l.block ++ ", statement_index=" ++ toString l.statement ++ ")"

/-- The order of places: by block, then by statement. -/
def Location.le (a b : Location) : Bool :=
  a.block < b.block || (a.block == b.block && a.statement ≤ b.statement)

/-- Where execution stands: at a place, or on its way out of the body. -/
inductive Position where
  | place (location : Location)
  | unwinding
  deriving DecidableEq, Repr

def Position.location? : Position → Option Location
  | .place location => some location
  | .unwinding => none

structure Statement where
  text : String
  span : Span
  /-- A hidden statement is drawn as a placeholder. -/
  hidden : Bool := false
  deriving DecidableEq, Repr

structure Block where
  statements : List Statement := []
  terminator : Terminator
  deriving DecidableEq, Repr

structure Body where
  blocks : List Block
  span : Span
  name : String := ""
  /-- The number of a promoted part of a larger body. -/
  promoted : Option Int := none
  deriving DecidableEq, Repr

namespace Body

def block? (b : Body) (index : Int) : Except Failure Block :=
  match Signed.get? b.blocks index with
  | some block => .ok block
  | none => .error .outOfRange

/-- The source of a place. -/
def spanAt (b : Body) (l : Location) : Except Failure Span := do
  let block ← b.block? l.block
  if l.statement = block.statements.length then return block.terminator.span
  match Signed.get? block.statements l.statement with
  | some statement => return statement.span
  | none => throw .outOfRange

theorem spanAt_statement {b : Body} {n i : Nat} {block : Block} {s : Statement}
    (hb : b.blocks[n]? = some block) (hs : block.statements[i]? = some s) :
    b.spanAt ⟨n, i⟩ = .ok s.span := by
  have hi : i < block.statements.length := (List.getElem?_eq_some_iff.1 hs).1
  have hne : ¬((i : Int) = block.statements.length) := by omega
  simp [spanAt, block?, hb, hs, hne, pure, Except.pure, bind, Except.bind]

theorem spanAt_terminator {b : Body} {n : Nat} {block : Block} (hb : b.blocks[n]? = some block) :
    b.spanAt ⟨n, block.statements.length⟩ = .ok block.terminator.span := by
  simp [spanAt, block?, hb, pure, Except.pure, bind, Except.bind]

/-- The source of a position: a place's own span, and the whole body on the way out. -/
def spanOf (b : Body) : Position → Except Failure Span
  | .place location => b.spanAt location
  | .unwinding => .ok b.span

end Body

end TraceLens
