import TraceLens.Graph.Body
import TraceLens.Log
import TraceLens.Settings
import TraceLens.Source.Label
import TraceLens.Source.Mark
import TraceLens.Source.SourceMap

/-!
# The source pane

One pane for each region of the chain of the current position, outermost first: the label of its
origin and the highlighted text with the region marked. A region whose text cannot be had gets a
placeholder and leaves the others as they are.
-/

namespace TraceLens

structure Pane where
  label : String
  markup : String
  deriving DecidableEq, Repr

/-- What a pane is made from besides its region. -/
structure PaneContext where
  sources : SourceMap
  highlight : Highlighter
  aliases : Table String String
  markerStyle : String

/-- The panes of a position, the cache after them, and what was logged on the way. -/
structure PaneRun where
  panes : Except Failure (List Pane)
  cache : HighlightCache
  log : List LogRecord := []

namespace Pane

/-- The pane of a region whose text cannot be had. -/
def placeholder (region : Region) (fault : SourceFault) : Pane :=
  ⟨region.text, Html.escape fault.message⟩

/-- The pane of a region in a highlighted text. -/
def ofRegion (context : PaneContext) (region : Region) (entry : Highlighted) :
    Except Failure Pane := do
  let markup ← markSpan entry.text entry.ranges region.lo region.hi context.markerStyle
  return ⟨region.label (some entry.text) context.aliases, markup⟩

/-- The panes of some regions, in order. -/
def ofRegions (context : PaneContext) (cache : HighlightCache) : List Region → PaneRun
  | [] => ⟨.ok [], cache, []⟩
  | region :: rest =>
    match context.sources.text region.file with
    | .error (.source fault) =>
      let run := ofRegions context cache rest
      ⟨(placeholder region fault :: ·) <$> run.panes, run.cache,
        .sourceMissing region fault :: run.log⟩
    | .error f => ⟨.error f, cache, []⟩
    | .ok text =>
      let (entry, cache) := cache.getOrCompute context.highlight text
      match entry >>= ofRegion context region with
      | .error f => ⟨.error f, cache, []⟩
      | .ok pane =>
        let run := ofRegions context cache rest
        ⟨(pane :: ·) <$> run.panes, run.cache, run.log⟩

end Pane

/-- The panes of a position in a body. -/
def sourcePane (context : PaneContext) (cache : HighlightCache) (body : Body)
    (position : Position) : PaneRun :=
  match body.spanOf position with
  | .error f => ⟨.error f, cache, []⟩
  | .ok span => Pane.ofRegions context cache span.chain.reverse

/-- A pane inside the page. -/
def Pane.html (p : Pane) : String :=
  "<span style=\"color: aqua;\">" ++ Html.escape p.label ++ "<br></span>" ++ p.markup ++ "<br><br>"

/-- Panes inside the page, on the background of their theme. -/
def panesHtml (panes : List Pane) (background : Option String) : String :=
  let style := match background with
    | some color => if color = "" then "" else "background-color: " ++ color ++ "; display: block;"
    | none => ""
  "<pre><code id=\"the_code\" style=\"" ++ style ++ "\">" ++ String.join (panes.map Pane.html) ++
    "</code></pre>"

end TraceLens
