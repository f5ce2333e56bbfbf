import TraceLens.Graph.Span
import TraceLens.Table
import TraceLens.Text.Lines

/-!
# Origin labels

A label names the file of a region, with a well-known directory shortened to its alias, and the
lines and columns between which the region lies.
-/

namespace TraceLens

/-- A path with the first matching beginning, in table order, replaced by its alias. -/
def shortenPath (aliases : Table String String) (path : String) : String :=
  match aliases.entries.find? fun entry => entry.1.toList.isPrefixOf path.toList with
  | some (start, short) => short ++ String.ofList (path.toList.drop start.length)
  | none => path

/-- A line and column, both counted from one. -/
def placeText (place : Int × Int) : String := toString place.1 ++ ":" ++ toString place.2

/-- The label of a region whose file has the given text; without a text, its path alone. -/
def Region.label (r : Region) (text : Option String) (aliases : Table String String) : String :=
  let path := shortenPath aliases r.file
  match text with
  | none => path
  | some text =>
    path ++ ":" ++ placeText (lineColumn text r.lo) ++ ": " ++ placeText (lineColumn text r.hi)

end TraceLens
