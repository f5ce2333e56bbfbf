import TraceLens.Graph.Overlay
import TraceLens.Layout.Process
import TraceLens.Settings

/-!
# The graph pane

The drawing of a body, laid out and embedded in a page, with the current place overlaid.
-/

namespace TraceLens

/-- The rest of a text from the first occurrence of a mark on. -/
def fromFirst? (mark : List Char) : List Char → Option (List Char)
  | [] => none
  | c :: cs => if mark.isPrefixOf (c :: cs) then some (c :: cs) else fromFirst? mark cs

/-- A drawing as part of a page: what stands before its picture element is left out. -/
def embedDrawing (drawing : List UInt8) : Except Failure String :=
  match Utf8.decode drawing with
  | .error fault => .error (.undecodable fault)
  | .ok text =>
    match fromFirst? "<svg".toList text.toList with
    | none => .error (.render .noDrawing)
    | some picture => .ok ("<div id=\"mir\">" ++ String.ofList picture ++ "</div>")

/-- What lays a drawing out. -/
abbrev Layouter := Layout.Request → Layout.Run

/-- The markup of a graph pane, and the run of the layout that it took. -/
structure GraphPaneRun where
  markup : Except Failure String
  invocation : Option Layout.Invocation := none
  diagnostics : String := ""

/-- The pane of a drawing that has been laid out. -/
def GraphPaneRun.markupOf (body : Body) (current : Option Position) (settings : Settings)
    (drawing : Except Failure (List UInt8)) : Except Failure String := do
  let picture ← embedDrawing (← drawing)
  match current with
  | none => return picture
  | some .unwinding => return picture ++ "<div style='color: red;'>Unwinding</div>"
  | some (.place l) => return picture ++ (← body.overlay l settings.currentRowColor)

/-- The graph pane of a body at a position. -/
def graphPane (layout : Layouter) (settings : Settings) (body : Body) (breakpoints : Breakpoints)
    (current : Option Position) : GraphPaneRun :=
  match body.digraph breakpoints settings.font with
  | .error f => { markup := .error f }
  | .ok graph =>
    let run := layout { engine := settings.layoutEngine, source := graph.text }
    { markup := GraphPaneRun.markupOf body current settings run.drawing
      invocation := run.invocation
      diagnostics := run.diagnostics }

end TraceLens
