/-!
# Text styles

How a stretch of text is shown, and the style sheet declarations that show it so.
-/

namespace TraceLens

structure TextStyle where
  color : Option String := none
  bold : Bool := false
  italic : Bool := false
  underline : Bool := false
  deriving DecidableEq, Repr

/-- The declarations of a style; a plain style, or one with an empty color, has fewer. -/
def TextStyle.css (s : TextStyle) : String :=
  let color := match s.color with
    | some color => if color = "" then "" else "color:" ++ color ++ ";"
    | none => ""
  color ++ (if s.bold then "font-weight:bold;" else "") ++
    (if s.italic then "font-style:italic;" else "") ++
    (if s.underline then "text-decoration:underline;" else "")

end TraceLens
