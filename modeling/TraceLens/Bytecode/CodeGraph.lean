import TraceLens.Bytecode.Blocks
import TraceLens.Graph.Breakpoints
import TraceLens.Table
import TraceLens.Text.Blank
import TraceLens.Text.Lines

/-!
# The graph of compiled code

Code becomes a body with one block per run of instructions. The last instruction of a run is its
terminator if it jumps, returns, raises or is a guarded call; otherwise control falls through to
the next block. The graph also tells where each instruction stands and where each line starts.
-/

namespace TraceLens.Bytecode

/-- A body with the places of its instructions and the first place of each line. -/
structure CodeGraph where
  body : Body
  locations : Table Int Location
  lineStarts : Table Int Location

namespace CodeGraph

/-- The place of the last instruction at or before an offset, or of the first instruction. -/
def locationFor (g : CodeGraph) (offset : Int) : Except Failure Location :=
  let offsets := g.locations.keys.mergeSort
  let key := ((offsets.filter (· ≤ offset)).getLast?).or offsets.head?
  match key.bind g.locations.find? with
  | some location => .ok location
  | none => .error .outOfRange

/-- The places where the given lines start, as far as they do. -/
def breakpointsForLines (g : CodeGraph) (lines : List Int) : Breakpoints :=
  .ofList (lines.filterMap g.lineStarts.find?)

end CodeGraph

/-- What the spans of a code are computed from. -/
structure Origin where
  file : String
  lines : LineTable
  /-- The offset where the code starts, the place of all that has no place of its own. -/
  start : Nat

/-- The offset of a line and column, if the line exists. -/
def offsetOf (lines : LineTable) (line column : Option Int) : Except Failure (Option Nat) :=
  match lines.number? line with
  | none => .ok none
  | some n =>
    match lines.line? n with
    | some line => .ok (some (line.offset column))
    | none => .error .outOfRange

namespace Origin

def region (o : Origin) (lo hi : Nat) : Span := .ofRegion ⟨o.file, lo, hi⟩

/-- The end of the source of an instruction that starts at `lo`. -/
def stopOf (o : Origin) (lo : Nat) (p : Positions) : Except Failure (Option Nat) :=
  match p.endLine, p.endColumn with
  | some endLine, some endColumn =>
    if endLine = 0 then openStop else offsetOf o.lines (some endLine) (some endColumn)
  | _, _ => openStop
where
  /-- Without an end, a source without a column reaches to the end of its line. -/
  openStop : Except Failure (Option Nat) :=
    match p.column with
    | some _ => .ok (some lo)
    | none =>
      match p.line.bind o.lines.line? with
      | some line => .ok (some (line.start + line.visibleLength))
      | none => .error .outOfRange

/-- The source of an instruction. Without a line it is the start of the code; an end before the
start is moved to it. -/
def spanOf (o : Origin) (i : Instruction) : Except Failure Span :=
  match i.positions with
  | none => .ok (o.region o.start o.start)
  | some p => do
    match ← offsetOf o.lines p.line p.column with
    | none => return o.region o.start o.start
    | some lo => return o.region lo (max lo ((← o.stopOf lo p).getD lo))

end Origin

/-- The line of a listing that shows an instruction. -/
def Instruction.text (i : Instruction) : String :=
  let number := toString i.offset
  Blank.trimEnd ("".pushn ' ' (3 - number.length) ++ number ++ ": " ++ i.name ++ " " ++
    (if i.operand.isSome then i.operandText else ""))

/-- The ending that an instruction makes of block `n`, if it makes one. -/
def Code.ending? (code : Code) (leaders : List Int) (n : Nat) (last : Instruction) :
    Option Ending :=
  let blockOf (offset : Int) : Int := blockIndex leaders offset
  let next? : Option Int := if n + 1 < leaders.length then some (n + 1 : Nat) else none
  let jump? : Option Ending :=
    match last.target with
    | none => none
    | some target =>
      if last.isUnconditional then some (.goto (blockOf target))
      else match last.isJump, next? with
        | true, some next =>
          some (.switch last.name [(jumpLabel last.name, blockOf target)] next)
        | _, _ => none
  let leave? : Option Ending :=
    if last.isReturn then some .ret
    else if last.isRaise then some .resume
    else none
  let call? : Option Ending :=
    match last.isCall, code.handlerAt? last.offset, next? with
    | true, some handler, some next =>
      some (.call last.name (last.operand.map toString).toList none (some next)
        (some (blockOf handler)))
    | _, _, _ => none
  (jump?.or leave?).or call?

/-- How a block ends whose last instruction does not say so: it falls through to the next. -/
def fallThrough (n count : Nat) : Ending :=
  if n + 1 < count then .goto (n + 1 : Nat) else .unreachable

/-- A block and the instructions it was made from. -/
structure CodeBlock where
  block : Block
  /-- The instructions with their places, in order. -/
  placed : List (Instruction × Location)

/-- Make block `n` from its instructions. -/
def Code.codeBlock (code : Code) (leaders : List Int) (origin : Origin) (n : Nat)
    (group : List Instruction) : Except Failure CodeBlock := do
  let some last := group.getLast? | throw .outOfRange
  let span ← origin.spanOf last
  let ending? := code.ending? leaders n last
  let shown := if ending?.isSome then group.dropLast else group
  let statements ← shown.mapM fun i => do
    return { text := i.text, span := ← origin.spanOf i, hidden := i.isHidden : Statement }
  return {
    block := { statements, terminator := ⟨span, ending?.getD (fallThrough n leaders.length)⟩ }
    placed := group.zipIdx.map fun (i, k) => (i, ⟨(n : Int), (k : Int)⟩) }

/-- The places of a block's instructions. -/
def CodeBlock.locations (b : CodeBlock) : List (Int × Location) :=
  b.placed.map fun (i, location) => (i.offset, location)

/-- The lines that a block's visible instructions belong to, with the place that their offset has
in the whole code. -/
def CodeBlock.lineStarts (locations : Table Int Location) (b : CodeBlock) :
    List (Int × Location) :=
  b.placed.filterMap fun (i, location) =>
    if i.isHidden then none
    else i.line?.map fun line => (line, (locations.find? i.offset).getD location)

/-- The source of a whole code: all of the text for a module, and otherwise from the start of the
code to the last end of an instruction's source. -/
def Code.wholeSpan (code : Code) (origin : Origin) (length : Nat) (blocks : List Block) : Span :=
  if code.name = "<module>" then origin.region 0 length
  else
    let stops := blocks.flatMap fun b => b.terminator.span.hi :: b.statements.map (·.span.hi)
    .ofRegion ⟨origin.file, origin.start, stops.foldl max origin.start⟩

/-- What the spans of a code are computed from; an empty file name means the code's own. -/
def Code.origin (code : Code) (source file : String) : Except Failure Origin := do
  let lines := LineTable.ofText source
  let start := (← offsetOf lines code.firstLine none).getD 0
  return ⟨if file = "" then code.file else file, lines, start⟩

/-- The graph of a code whose blocks have been made, for a source of `length` characters. -/
def Code.graphOf (code : Code) (origin : Origin) (length : Nat) (blocks : List CodeBlock) :
    CodeGraph :=
  let locations := Table.ofList (blocks.flatMap CodeBlock.locations)
  let lineStarts := (blocks.flatMap (CodeBlock.lineStarts locations)).foldl
    (fun t (line, location) => t.insertNew line location) {}
  let body : Body := {
    blocks := blocks.map CodeBlock.block
    span := code.wholeSpan origin length (blocks.map CodeBlock.block)
    name := code.qualifiedName.getD code.name }
  { body, locations, lineStarts }

/-- The graph of a code whose source is `source`. -/
def codeGraph (code : Code) (source : String) (file : String := "") : Except Failure CodeGraph := do
  let origin ← code.origin source file
  if code.instructions.isEmpty then throw .outOfRange
  let leaders := code.leaders
  let blocks ← (groupsBy leaders code.instructions).zipIdx.mapM fun (group, n) =>
    code.codeBlock leaders origin n group
  return code.graphOf origin source.length blocks

end TraceLens.Bytecode
