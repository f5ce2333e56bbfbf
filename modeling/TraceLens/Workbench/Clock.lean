import TraceLens.Failure

/-!
# Clock

What a clock shows, and the time between two looks at it. Whole numbers of seconds are subtracted
exactly; all else is floating-point arithmetic.

Main statement: `milliseconds_whole` says that for whole numbers the duration depends on their
difference alone.
-/

namespace TraceLens.Workbench

/-- Seconds, as a clock shows them. -/
inductive Instant where
  | whole (seconds : Int)
  | fraction (seconds : Float)

namespace Instant

/-- The floating-point number that is nearest to a whole number, if that is within range. -/
def nearest (n : Int) : Except Failure Float :=
  let x := Float.ofScientific n.natAbs false 0
  if x.isFinite then .ok (if n < 0 then -x else x) else .error .beyondRange

def toFloat : Instant → Except Failure Float
  | .whole n => nearest n
  | .fraction x => .ok x

/-- The milliseconds from one look at the clock to another. -/
def milliseconds (start stop : Instant) : Except Failure Float :=
  match start, stop with
  | .whole a, .whole b => do return (← nearest (b - a)) * 1000.0
  | start, stop => do return ((← stop.toFloat) - (← start.toFloat)) * 1000.0

theorem milliseconds_whole {a b c d : Int} (h : b - a = d - c) :
    milliseconds (.whole a) (.whole b) = milliseconds (.whole c) (.whole d) := by
  simp only [milliseconds, h]

end Instant

end TraceLens.Workbench
