import TraceLens.Recorder.Run

/-!
# The list of snapshots

One line for each snapshot: its number, the name of its body, its line and its place, the first
three in columns that grow with their content.
-/

namespace TraceLens

namespace Listing

def padStart (width : Nat) (text : String) : String :=
  String.ofList (List.replicate (width - text.length) ' ') ++ text

def padEnd (width : Nat) (text : String) : String :=
  text ++ String.ofList (List.replicate (width - text.length) ' ')

/-- Where the script stands. -/
def place : Position → String
  | .unwinding => "unwinding"
  | .place l => "bb" ++ toString l.block ++ "[" ++ toString l.statement ++ "]"

/-- The line of a snapshot, which must have a line number. -/
def row (n : Nat) (s : Snapshot) : Except Failure String :=
  match s.line with
  | none => .error (.absent .line)
  | some line =>
    .ok (padStart 4 (toString n) ++ "  " ++ padEnd 20 s.body.name ++ " line " ++
      padEnd 5 (toString line) ++ " " ++ place s.position ++ "\n")

/-- The lines of the snapshots from number `n` on, up to the first that has none, and what is
wrong with that one. -/
def rows (n : Nat) : List Snapshot → String × Option Failure
  | [] => ("", none)
  | s :: rest =>
    match row n s with
    | .error f => ("", some f)
    | .ok line =>
      let (more, failure) := rows (n + 1) rest
      (line ++ more, failure)

/-- What the script has printed, under a heading if there is any. -/
def programOutput (output : String) : String :=
  if output = "" then "" else "--- program output ---\n" ++ output

end Listing

end TraceLens
