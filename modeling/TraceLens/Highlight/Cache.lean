import TraceLens.Highlight.Fragment
import TraceLens.Signed
import TraceLens.Table

/-!
# The highlight cache

Highlighting a text gives styled ranges that follow one another and cover it. The cache keeps the
ranges of each text that has been highlighted, and a failure leaves it as it was.

Main statements: `getOrCompute_stored` says that a stored text is not highlighted again, and
`getOrCompute_error` that a failure changes nothing.
-/

namespace TraceLens

/-- The style of the characters from `start` up to `stop`. -/
structure StyledRange where
  style : TextStyle
  start : Int
  stop : Int
  deriving DecidableEq, Repr

namespace StyledRange

/-- The ranges of fragments that follow one another from `start`; an empty one has no range. -/
def ofFragments (start : Nat) : List Fragment → List StyledRange
  | [] => []
  | f :: fs =>
    if f.text = "" then ofFragments start fs
    else ⟨f.style, start, start + f.text.length⟩ :: ofFragments (start + f.text.length) fs

/-- The fragments of a text that ranges cut out of it. -/
def fragments (text : String) (ranges : List StyledRange) : List Fragment :=
  let chars := text.toList
  ranges.map fun r => ⟨r.style, String.ofList (Signed.slice chars r.start r.stop)⟩

end StyledRange

/-- A text with its styled ranges. -/
structure Highlighted where
  text : String
  ranges : List StyledRange
  deriving DecidableEq, Repr

/-- The ranges of a text from its highlighted lines, which must be as long as the text. -/
def Highlighted.ofLines (text : String) (lines : List (List Fragment)) :
    Except Failure Highlighted :=
  let covered := Fragment.totalLength lines.flatten
  if covered = text.length then .ok ⟨text, StyledRange.ofFragments 0 lines.flatten⟩
  else .error (.render (.partlyHighlighted covered text.length))

/-- What highlights a text, line by line. -/
abbrev Highlighter := String → Except Failure (List (List Fragment))

/-- The highlighted texts so far, and how many times a text has been highlighted. -/
structure HighlightCache where
  entries : Table String Highlighted := {}
  computed : Nat := 0

namespace HighlightCache

def size (c : HighlightCache) : Nat := c.entries.size

/-- The entry of a text, made if there is none, and the cache after that. -/
def getOrCompute (c : HighlightCache) (highlight : Highlighter) (text : String) :
    Except Failure Highlighted × HighlightCache :=
  match c.entries.find? text with
  | some entry => (.ok entry, c)
  | none =>
    match highlight text >>= Highlighted.ofLines text with
    | .error f => (.error f, c)
    | .ok entry => (.ok entry, ⟨c.entries.insert text entry, c.computed + 1⟩)

theorem getOrCompute_stored {c : HighlightCache} {text : String} {entry : Highlighted}
    (h : c.entries.find? text = some entry) (highlight : Highlighter) :
    c.getOrCompute highlight text = (.ok entry, c) := by
  simp [getOrCompute, h]

theorem getOrCompute_error {c : HighlightCache} {text : String} {highlight : Highlighter}
    {f : Failure} (h : (c.getOrCompute highlight text).1 = .error f) :
    (c.getOrCompute highlight text).2 = c := by
  unfold getOrCompute at h ⊢
  split
  · rfl
  · split
    · rfl
    · simp_all

end HighlightCache

end TraceLens
