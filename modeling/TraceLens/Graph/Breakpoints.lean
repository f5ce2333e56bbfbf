import TraceLens.Distinct
import TraceLens.Graph.Body

/-!
# Breakpoints

A set of marked places.

Main statements: `contains_ofList` says which places are marked, and `nodup_ofList` that each is
held once.
-/

namespace TraceLens

/-- Marked places, each listed once. -/
structure Breakpoints where
  places : List Location := []
  deriving DecidableEq, Repr

namespace Breakpoints

def ofList (places : List Location) : Breakpoints := ⟨distinct places⟩

def contains (b : Breakpoints) (l : Location) : Bool := b.places.contains l

def size (b : Breakpoints) : Nat := b.places.length

/-- The places in their order. -/
def sorted (b : Breakpoints) : List Location := b.places.mergeSort Location.le

/-- A set as it is shown to the user. -/
def text (b : Breakpoints) : String :=
  "Breakpoints([" ++ ", ".intercalate (b.sorted.map Location.text) ++ "])"

theorem contains_ofList (places : List Location) (l : Location) :
    (ofList places).contains l = true ↔ l ∈ places := by
  simp [ofList, contains]

theorem nodup_ofList (places : List Location) : (ofList places).places.Nodup :=
  nodup_distinct places

end Breakpoints

end TraceLens
