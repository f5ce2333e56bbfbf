import TraceLens.Dot.Digraph
import TraceLens.Graph.Breakpoints
import TraceLens.Text.Html

/-!
# Drawing a body

Each block becomes a node whose label is a table: the block's name, one line per statement, and
the head of the terminator. Successors become edges. A statement with a breakpoint is marked.
-/

namespace TraceLens

/-- The name of a block's node; the blocks of a promoted part carry its number. -/
def nodeName (index : Int) (promoted : Option Int := none) : String :=
  match promoted with
  | some p => "promoted" ++ toString p ++ "." ++ toString index
  | none => "bb" ++ toString index

/-- A cell of a node's table, with its attributes. -/
def labelCell (attributes content : String) : String :=
  "<tr><td " ++ attributes ++ ">" ++ content ++ "</td></tr>"

/-- The line that shows a statement. -/
def Statement.labelLine (s : Statement) (marked : Bool) : String :=
  (if marked then "+ " else "&nbsp; ") ++
    (if s.hidden then "&lt;+&gt;" else Html.escape s.text) ++ "<br/>"

/-- The lines of a block's statements, starting at statement `i`. -/
def statementLines (breakpoints : Breakpoints) (block : Nat) : Nat → List Statement → List String
  | _, [] => []
  | i, s :: rest =>
    s.labelLine (breakpoints.contains ⟨block, i⟩) :: statementLines breakpoints block (i + 1) rest

/-- The table that is drawn for a block. -/
def Block.label (block : Block) (name : String) (index : Nat) (breakpoints : Breakpoints) :
    Except Failure String := do
  let head ← block.terminator.ending.head
  let title := labelCell "bgcolor=\"gray\" align=\"center\"" name
  let body :=
    if block.statements.isEmpty then ""
    else labelCell "align=\"left\" balign=\"left\""
      (String.join (statementLines breakpoints index 0 block.statements))
  let foot := labelCell "align=\"left\"" (Html.escape head)
  return "<table border=\"0\" cellborder=\"1\" cellspacing=\"0\">" ++ title ++ body ++ foot ++
    "</table>"

namespace Body

def nodeName (b : Body) (index : Int) : String := TraceLens.nodeName index b.promoted

/-- The name of the graph of a body. -/
def graphName (b : Body) : String :=
  match b.promoted with
  | some p => "promoted" ++ toString p
  | none => "Body"

/-- The node of block `index`. -/
def node (b : Body) (breakpoints : Breakpoints) (block : Block) (index : Nat) :
    Except Failure Dot.Node := do
  let name := b.nodeName index
  return ⟨name, "<" ++ (← block.label name index breakpoints) ++ ">"⟩

/-- The edges out of block `index`. -/
def edgesFrom (b : Body) (block : Block) (index : Nat) : List Dot.Edge :=
  block.terminator.ending.successors.map fun (target, label) =>
    ⟨b.nodeName index, b.nodeName target, label⟩

/-- The drawing of a body in a given font. -/
def digraph (b : Body) (breakpoints : Breakpoints) (font : String) :
    Except Failure Dot.Digraph := do
  let nodes ← b.blocks.zipIdx.mapM fun (block, n) => b.node breakpoints block n
  return {
    name := b.graphName
    font
    nodes
    edges := b.blocks.zipIdx.flatMap fun (block, n) => b.edgesFrom block n }

end Body

end TraceLens
