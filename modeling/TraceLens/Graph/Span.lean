/-!
# Spans

A region is a half-open stretch of a file. A span is a region together with the call sites it was
expanded from, so that its chain leads outward from the innermost region.
-/

namespace TraceLens

/-- The characters of a file from `lo` up to but not including `hi`. -/
structure Region where
  file : String
  lo : Int
  hi : Int
  deriving DecidableEq, Repr

def Region.text (r : Region) : String :=
  r.file ++ "[" ++ toString r.lo ++ ".." ++ toString r.hi ++ "]"

/-- A region and its call sites, the nearest one first. -/
structure Span extends Region where
  callSites : List Region := []
  deriving DecidableEq, Repr

namespace Span

/-- The regions of a span from the innermost one outward. -/
def chain (s : Span) : List Region := s.toRegion :: s.callSites

/-- The span of a region that was not expanded from anywhere. -/
def ofRegion (r : Region) : Span := { r with }

@[simp] theorem chain_ofRegion (r : Region) : (ofRegion r).chain = [r] := rfl

end Span

end TraceLens
