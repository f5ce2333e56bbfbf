import TraceLens.Pane.Graph
import TraceLens.Pane.Source
import TraceLens.Recorder.Run

/-!
# The page of a snapshot

A page shows the graph pane of a snapshot and the source panes under it. A run without any
snapshot has a page that says so.
-/

namespace TraceLens

namespace Page

/-- A page with a title, the markup of a graph and the markup of source panes. -/
def html (title graph source : String) : String :=
  "<!DOCTYPE html>\n<html><head><meta charset=\"utf-8\"><title>" ++ title ++ "</title></head>\n" ++
    "<body>\n<h3>" ++ title ++ "</h3>\n" ++ graph ++ "\n" ++ source ++ "\n</body></html>\n"

/-- The page of a run without any snapshot. -/
def empty (file : String) : String := html file "<p>(no steps recorded)</p>" ""

/-- The title of a page: the body of the snapshot and its line. -/
def title (s : Snapshot) : String :=
  s.body.name ++ " @ line " ++ s.lineText

end Page

/-- What pages are made with. -/
structure PageContext where
  settings : Settings
  layout : Layouter
  highlight : Highlighter
  aliases : Table String String

/-- What the source panes of a recorded script are made with. -/
def PageContext.paneContext (context : PageContext) (recorder : Recorder) : PaneContext where
  sources := SourceMap.add {} recorder.file recorder.source
  highlight := context.highlight
  aliases := context.aliases
  markerStyle := context.settings.markerStyle

/-- The page of a snapshot, and what happened while it was made. -/
structure PageRun where
  page : Except Failure String
  invocation : Option Layout.Invocation := none
  diagnostics : String := ""
  log : List LogRecord := []

/-- Make the page of a snapshot; without a graph pane no source pane is made. -/
def pageOf (context : PageContext) (recorder : Recorder) (breakpointLines : List Int)
    (s : Snapshot) : PageRun :=
  let breakpoints := recorder.breakpointsFor s.bodyId breakpointLines
  let drawn := graphPane context.layout context.settings s.body breakpoints (some s.position)
  let run : Except Failure String → List LogRecord → PageRun := fun page log =>
    { page, invocation := drawn.invocation, diagnostics := drawn.diagnostics, log }
  match drawn.markup with
  | .error f => run (.error f) []
  | .ok graph =>
    let shown := sourcePane (context.paneContext recorder) {} s.body s.position
    let page (panes : List Pane) : String :=
      Page.html (Page.title s) graph (panesHtml panes context.settings.theme.styleTable.background)
    run (shown.panes.map page) shown.log

end TraceLens
