import TraceLens.Highlight.Cache

/-!
# Marking a span

The characters of a span are set off inside the markup of their whole text. An empty span is
shown by a glyph between two characters.
-/

namespace TraceLens

/-- The glyph that stands at an empty span. -/
def markerGlyph : String := "←"

/-- A text cut into the fragments before, inside and after a span. -/
structure MarkedText where
  before : List Fragment
  inside : List Fragment
  after : List Fragment
  deriving DecidableEq, Repr

/-- Cut the styled ranges of a text at the ends of a span. -/
def MarkedText.of (text : String) (ranges : List StyledRange) (lo hi : Int) : MarkedText :=
  let (before, rest) := Fragment.splitAt (StyledRange.fragments text ranges) lo
  let (inside, after) := Fragment.splitAt rest (hi - lo)
  ⟨before, inside, after⟩

/-- The opening tag of the marked span. -/
def markerTag (style : String) : String := "<span style='" ++ style ++ "'>"

/-- The markup of a text with a span set off in the given style. -/
def markSpan (text : String) (ranges : List StyledRange) (lo hi : Int) (style : String) :
    Except Failure String :=
  if 0 ≤ lo ∧ lo ≤ hi ∧ hi ≤ text.length then
    let parts := MarkedText.of text ranges lo hi
    let inside := Fragment.htmlOf parts.inside
    let result (shown : String) : String :=
      Fragment.htmlOf parts.before ++ markerTag style ++ shown ++ "</span>" ++
        Fragment.htmlOf parts.after
    if lo = hi then
      if inside = "" then .ok (result markerGlyph) else .error (.render (.pointMarked lo))
    else
      if inside = "" then .error (.render (.nothingMarked lo hi)) else .ok (result inside)
  else .error (.render (.spanOutside lo hi text.length))

end TraceLens
