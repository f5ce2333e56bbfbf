import TraceLens.Text.LowerCase

/-!
# Compiled code

The instructions of one unit of compiled script code, its exception table, and the questions that
the control-flow graph asks about an instruction: whether it jumps, leaves, raises, or is a call
covered by a handler.
-/

namespace TraceLens.Bytecode

/-- Where an instruction comes from: lines counted from one, columns in UTF-8 bytes. -/
structure Positions where
  line : Option Int
  endLine : Option Int
  column : Option Int
  endColumn : Option Int
  deriving DecidableEq, Repr

structure Instruction where
  offset : Int
  opcode : Int
  name : String
  /-- The raw operand, if there is one. -/
  operand : Option Int
  /-- What the operand stands for, when that is a number; a jump's target in particular. -/
  target : Option Int
  /-- What the operand stands for, as text. -/
  operandText : String
  positions : Option Positions
  deriving DecidableEq, Repr

/-- A stretch of offsets, the last one excluded, and the handler of its exceptions. -/
structure Handler where
  start : Int
  stop : Int
  target : Int
  deriving DecidableEq, Repr

structure Code where
  file : String
  firstLine : Option Int := some 1
  name : String := "<module>"
  qualifiedName : Option String := none
  instructions : List Instruction
  handlers : List Handler := []
  deriving DecidableEq, Repr

/-- The numbers of the instructions that jump. -/
def jumpOpcodes : List Int :=
  [93, 110, 111, 112, 114, 115, 123, 128, 129, 134, 140, 173, 174, 175, 176]

def unconditionalJumps : List String :=
  ["JUMP_FORWARD", "JUMP_BACKWARD", "JUMP_BACKWARD_NO_INTERRUPT", "JUMP_ABSOLUTE", "JUMP",
    "JUMP_NO_INTERRUPT"]

namespace Instruction

def isJump (i : Instruction) : Bool := jumpOpcodes.contains i.opcode

def isUnconditional (i : Instruction) : Bool := unconditionalJumps.contains i.name

def isReturn (i : Instruction) : Bool := ["RETURN_VALUE", "RETURN_CONST"].contains i.name

def isRaise (i : Instruction) : Bool := ["RAISE_VARARGS", "RERAISE"].contains i.name

def isCall (i : Instruction) : Bool := "CALL".toList.isPrefixOf i.name.toList

/-- Bookkeeping instructions are drawn as placeholders and start no line. -/
def isHidden (i : Instruction) : Bool :=
  ["RESUME", "NOP", "CACHE", "EXTENDED_ARG"].contains i.name

/-- The line that an instruction belongs to; zero counts as none. -/
def line? (i : Instruction) : Option Int :=
  match i.positions with
  | some p => p.line.filter (· ≠ 0)
  | none => none

end Instruction

/-- The handler of exceptions raised at an offset: the first entry that covers it. -/
def Code.handlerAt? (code : Code) (offset : Int) : Option Int :=
  (code.handlers.find? fun h => h.start ≤ offset && offset < h.stop).map Handler.target

/-- Whether an instruction is a call whose exceptions are handled in this code. -/
def Code.isGuardedCall (code : Code) (i : Instruction) : Bool :=
  i.isCall && (code.handlerAt? i.offset).isSome

/-- Whether control may leave the straight line after an instruction. -/
def Code.endsRun (code : Code) (i : Instruction) : Bool :=
  i.isJump || i.isReturn || i.isRaise || code.isGuardedCall i

def Code.offsets (code : Code) : List Int := code.instructions.map Instruction.offset

/-- The part of a text after the last occurrence of a mark in it. -/
def afterLast? (mark : List Char) : List Char → Option (List Char)
  | [] => none
  | c :: cs =>
    match afterLast? mark cs with
    | some tail => some tail
    | none => if mark.isPrefixOf (c :: cs) then some ((c :: cs).drop mark.length) else none

/-- What the edge of a taken jump is called. -/
def jumpLabel (name : String) : String :=
  if name = "FOR_ITER" then "exhausted"
  else if name = "SEND" then "done"
  else match afterLast? "IF_".toList name.toList with
    | some condition =>
      (LowerCase.lower (String.ofList condition)).map fun c => if c = '_' then ' ' else c
    | none => "jump"

end TraceLens.Bytecode
