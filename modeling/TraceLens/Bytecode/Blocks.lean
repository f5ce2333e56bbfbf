import TraceLens.Bytecode.Code
import TraceLens.Distinct

/-!
# Cutting code into blocks

A block starts at a leader: the first instruction, the target of a jump or of a handler, and
whatever follows an instruction that may leave the straight line. The block of an offset is the
one with the last leader at or before it.

Main statements: `mem_leaders` says which offsets are leaders, and `blockIndex_lt` that every
offset falls into a block.
-/

namespace TraceLens.Bytecode

/-- The offsets that follow an instruction that may leave the straight line. -/
def Code.offsetsAfterRuns (code : Code) : List Int :=
  (code.instructions.zip code.instructions.tail).filterMap fun (i, next) =>
    if code.endsRun i then some next.offset else none

def Code.jumpTargets (code : Code) : List Int :=
  (code.instructions.filter Instruction.isJump).filterMap Instruction.target

/-- The offsets at which a block would start, those of no instruction included. -/
def Code.leaderCandidates (code : Code) : List Int :=
  code.offsets.take 1 ++ code.jumpTargets ++ code.offsetsAfterRuns ++
    code.handlers.map Handler.target

/-- The offsets at which a block starts, in ascending order. -/
def Code.leaders (code : Code) : List Int :=
  (distinct (code.offsets.filter code.leaderCandidates.contains)).mergeSort

/-- The number of the block of an offset; one before all leaders falls into the first block. -/
def blockIndex (leaders : List Int) (offset : Int) : Nat :=
  leaders.countP (· ≤ offset) - 1

/-- The instructions that fall into each block. -/
def groupsBy (leaders : List Int) (instructions : List Instruction) : List (List Instruction) :=
  (List.range leaders.length).map fun n =>
    instructions.filter fun i => blockIndex leaders i.offset = n

/-- The blocks of a code, as runs of instructions. -/
def Code.groups (code : Code) : List (List Instruction) :=
  groupsBy code.leaders code.instructions

theorem mem_leaders {code : Code} {offset : Int} :
    offset ∈ code.leaders ↔ offset ∈ code.offsets ∧ offset ∈ code.leaderCandidates := by
  simp [Code.leaders, List.mem_mergeSort]

theorem blockIndex_lt {leaders : List Int} (h : leaders ≠ []) (offset : Int) :
    blockIndex leaders offset < leaders.length := by
  have := List.countP_le_length (p := fun x => decide (x ≤ offset)) (l := leaders)
  have : 0 < leaders.length := List.length_pos_iff.2 h
  unfold blockIndex
  omega

end TraceLens.Bytecode
