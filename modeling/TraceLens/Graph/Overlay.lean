import TraceLens.Graph.Drawing
import TraceLens.Table

/-!
# The overlay of the current place

The drawing of a body is a picture whose nodes are numbered in block order. The overlay picks out
the text row of the current statement in its node, and colours the edges out of its block by the
part they play.

Main statement: `rowOf_error_iff` says for which statement indices there is no row.
-/

namespace TraceLens

/-- Before the first statement line of a node come its title, the two polygons and the text of
the name cell, and the polygon of the statement cell. -/
def firstStatementRow : Nat := 6

/-- The polygon of the terminator cell comes after the last statement line. -/
def terminatorRowOffset : Nat := 7

/-- Without statements the terminator text is the child after one polygon less. -/
def emptyBlockTerminatorRow : Nat := 6

/-- The row of a statement among the children of its node, counted from one; the index after the
last statement is the terminator's. -/
def Block.rowOf (block : Block) (i : Int) : Except Failure Nat :=
  let n := block.statements.length
  if i = n then .ok (if n = 0 then emptyBlockTerminatorRow else n + terminatorRowOffset)
  else if 0 ≤ i ∧ i < n then .ok (i.toNat + firstStatementRow)
  else .error (.render (.statementOutside i n))

theorem Block.rowOf_error_iff {block : Block} {i : Int} {f : Failure} :
    block.rowOf i = .error f ↔
      (i < 0 ∨ block.statements.length < i) ∧
        f = .render (.statementOutside i block.statements.length) := by
  unfold rowOf
  simp only
  split
  · simp; omega
  · split
    · simp; omega
    · rename_i h₁ h₂
      constructor
      · intro h
        simp only [Except.error.injEq] at h
        exact ⟨by omega, h.symm⟩
      · rintro ⟨_, rfl⟩; rfl

/-- The title of an edge in the picture. -/
def edgeTitle (source target : String) : String := source ++ "->" ++ target

/-- The titles of the edges out of the current block, each with the part of its last successor. -/
def Body.edgeRoles (b : Body) (l : Location) : Except Failure (Table String Role) := do
  let block ← b.block? l.block
  return .ofList (block.terminator.ending.flow.map fun (target, role) =>
    (edgeTitle (b.nodeName l.block) (b.nodeName target), role))

/-- A table of edge roles as a script object. -/
def roleObject (roles : Table String Role) : String :=
  "\x7b" ++ ", ".intercalate (roles.entries.map fun (title, role) =>
    "\"" ++ title ++ "\": \"" ++ role.name ++ "\"") ++ "\x7d"

/-- Lines of style or script, each after the same indentation. -/
def indentedLines (lines : List String) : String :=
  "\n".intercalate (lines.map fun line => "        " ++ line)

/-- A style rule for all parts of the edges of one class. -/
def edgeRule (cls color : String) : List String := [
  ".edge-" ++ cls ++ " > path, .edge-" ++ cls ++ " > polygon, .edge-" ++ cls ++ " > text \x7b",
  "    fill: " ++ color ++ ";",
  "    stroke: " ++ color ++ ";",
  "\x7d"]

/-- The style and script that show the current place in the picture of a body. -/
def Body.overlay (b : Body) (l : Location) (rowColor : String) : Except Failure String := do
  let block ← b.block? l.block
  let row ← block.rowOf l.statement
  let roles ← b.edgeRoles l
  let style := [
    "#mir #node" ++ toString (l.block + 1) ++ " > text:nth-child(" ++ toString row ++ ") \x7b",
    "    fill: " ++ rowColor ++ ";",
    "\x7d"] ++ edgeRule "normal" "green" ++ edgeRule "unwind" "red" ++ [
    ".edge > path \x7b",
    "    fill: none;",
    "\x7d",
    "</style>",
    "<script>",
    "let edge_colors = " ++ roleObject roles ++ ";",
    "for(let el of document.querySelectorAll(\"#mir > svg #graph0 .edge\")) \x7b",
    "    let title = el.querySelector(\"title\").textContent;",
    "    if(title in edge_colors) \x7b",
    "        el.classList.add(\"edge-\" + edge_colors[title]);",
    "    \x7d",
    "\x7d",
    "</script>"]
  return "<style>\n" ++ indentedLines style

end TraceLens
