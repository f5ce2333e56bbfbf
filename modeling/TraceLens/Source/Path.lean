/-!
# Paths of the system

A path has one spelling: no empty step and no step `.`, and one slash between steps. Two slashes
at its start stay, and any other number of them counts as one.

Main statement: `normalSteps_normalSteps`.
-/

namespace TraceLens.Path

/-- The steps of a path that lead anywhere. -/
def normalSteps (steps : List (List Char)) : List (List Char) :=
  steps.filter fun step => !step.isEmpty && step != ['.']

@[simp] theorem normalSteps_normalSteps (steps : List (List Char)) :
    normalSteps (normalSteps steps) = normalSteps steps := by
  simp [normalSteps, List.filter_filter]

/-- The slashes that stay at the start of a path. -/
def root (path : List Char) : List Char :=
  match (path.takeWhile (· == '/')).length with
  | 0 => []
  | 2 => ['/', '/']
  | _ => ['/']

/-- The one spelling of a path; a path without any step is the working directory. -/
def normal (path : String) : String :=
  let steps := normalSteps (path.toList.splitOn '/')
  let spelled := root path.toList ++ ['/'].intercalate steps
  if spelled.isEmpty then "." else String.ofList spelled

end TraceLens.Path
