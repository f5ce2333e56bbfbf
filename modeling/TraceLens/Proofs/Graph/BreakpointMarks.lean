import Mathlib.Algebra.CharZero.Defs
import Mathlib.Algebra.Ring.Int.Defs
import TraceLens.Proofs.Bytecode.LineStarts
import TraceLens.Proofs.Graph.DotText

/-!
# Marks of breakpoints

In the drawing of a body the lines of statements with a breakpoint are marked, and no other lines.
The breakpoints on source lines are where the lines start, which may also be where a block ends, and
there is no mark in the line of an ending.

Main statement: `marks_breakpointsForLines` says which lines are marked for breakpoints on source
lines, and that as many breakpoints have no mark as there are lines that start with the end of a
block.
-/

namespace TraceLens

/-- A line that begins with the mark of a breakpoint. -/
def NodePart.isMarked : NodePart → Bool
  | .text shown => "+ ".toList.isPrefixOf shown.toList
  | _ => false

/-- The table in the label of a node, which stands between two brackets. -/
def Dot.Node.table (n : Dot.Node) : String := String.ofList n.label.toList.tail.dropLast

/-- The marked lines in the picture of a node. -/
def Dot.Node.markedLines (n : Dot.Node) : List NodePart :=
  (nodeParts n.name n.table).filter NodePart.isMarked

def Dot.Digraph.markedLines (g : Dot.Digraph) : List NodePart := g.nodes.flatMap Node.markedLines

namespace Body

/-- The statements of a body with their places, block by block. -/
def statements (b : Body) : List (Location × Statement) :=
  b.blocks.zipIdx.flatMap fun p => p.1.statements.zipIdx.map fun q => (⟨p.2, q.2⟩, q.1)

/-- The places where the blocks of a body end. -/
def endings (b : Body) : List Location :=
  b.blocks.zipIdx.map fun p => ⟨p.2, p.1.statements.length⟩

/-- The statements with a breakpoint, in the order of their places. -/
def marked (b : Body) (breakpoints : Breakpoints) : List Statement :=
  (b.statements.filter fun p => breakpoints.contains p.1).map Prod.snd

end Body

/-! ## Lines -/

/-- The line of an ending does not look like that of a marked statement. -/
def Ending.Unmarked (e : Ending) : Prop :=
  ∀ head, e.head = .ok head → (NodePart.text head).isMarked = false

theorem Statement.isMarked_shownLine (s : Statement) (marked : Bool) :
    (NodePart.text (s.shownLine marked)).isMarked = marked := by
  cases marked with
  | false =>
    have text : (s.shownLine false).toList = '\u00a0' :: ' ' :: s.shownText.toList := by
      simp [shownLine]
    simp only [NodePart.isMarked, text]
    rfl
  | true =>
    have text : (s.shownLine true).toList = "+ ".toList ++ s.shownText.toList := by
      simp [shownLine]
    simp only [NodePart.isMarked, text]
    exact List.isPrefixOf_iff_prefix.2 (List.prefix_append _ _)

theorem Body.isMarked_nodeName (b : Body) (k : Int) :
    (NodePart.text (b.nodeName k)).isMarked = false := by
  have text : (b.nodeName k).toList =
      (nameStart b.promoted).toList ++ (toString k).toList := by
    rw [Body.nodeName, nodeName_eq, String.toList_append]
  simp only [NodePart.isMarked, text]
  cases b.promoted with
  | none => rfl
  | some p =>
    simp only [nameStart, String.toList_append, List.append_assoc]
    rfl

/-- The marked lines for statements are those of the statements with a breakpoint. -/
theorem filter_statementParts (breakpoints : Breakpoints) (block : Nat) (ss : List Statement) :
    (statementParts breakpoints block ss).filter NodePart.isMarked =
      (ss.zipIdx.filter fun p => breakpoints.contains ⟨block, p.2⟩).map fun p =>
        NodePart.text (p.1.shownLine true) := by
  have marks : (NodePart.isMarked ∘ fun p : Statement × Nat =>
      NodePart.text (p.1.shownLine (breakpoints.contains ⟨block, p.2⟩))) =
      fun p => breakpoints.contains ⟨block, p.2⟩ :=
    funext fun p => p.1.isMarked_shownLine _
  have lines : ((ss.zipIdx.map fun p =>
      NodePart.text (p.1.shownLine (breakpoints.contains ⟨block, p.2⟩))).filter
        NodePart.isMarked) =
      (ss.zipIdx.filter fun p => breakpoints.contains ⟨block, p.2⟩).map fun p =>
        NodePart.text (p.1.shownLine true) := by
    rw [List.filter_map, marks]
    refine List.map_congr_left fun p hp => ?_
    rw [(List.mem_filter.1 hp).2]
  unfold statementParts
  split
  · rename_i hnil
    rw [hnil]
    rfl
  · rw [List.filter_cons_of_neg (by decide), lines]

/-! ## Nodes -/

namespace Body

variable {b : Body} {breakpoints : Breakpoints}

theorem markedLines_node {block : Block} {k : Nat} {n : Dot.Node}
    (h : b.node breakpoints block k = .ok n) (unmarked : block.terminator.ending.Unmarked) :
    n.markedLines = (block.statements.zipIdx.filter fun p => breakpoints.contains ⟨k, p.2⟩).map
      fun p => NodePart.text (p.1.shownLine true) := by
  obtain ⟨table, htable, hn⟩ := bind_eq_ok_iff.1 h
  obtain rfl := pure_eq_ok_iff.1 hn
  obtain ⟨head, hhead, -⟩ := bind_eq_ok_iff.1 htable
  obtain ⟨label, hlabel, parts⟩ := nodeParts_label hhead b k breakpoints
  obtain rfl := Except.ok.inj (hlabel.symm.trans htable)
  have inner : Dot.Node.table ⟨b.nodeName k, "<" ++ label ++ ">"⟩ = label := by
    simp [Dot.Node.table]
  have name : [NodePart.title (b.nodeName k), NodePart.fill, NodePart.border,
      NodePart.text (b.nodeName k)].filter NodePart.isMarked = [] := by
    rw [List.filter_cons_of_neg (by simp [NodePart.isMarked]),
      List.filter_cons_of_neg (by decide), List.filter_cons_of_neg (by decide),
      List.filter_cons_of_neg (by simp [isMarked_nodeName]), List.filter_nil]
  have ending : [NodePart.border, NodePart.text head].filter NodePart.isMarked = [] := by
    rw [List.filter_cons_of_neg (by decide),
      List.filter_cons_of_neg (by simp [unmarked head hhead]), List.filter_nil]
  rw [Dot.Node.markedLines, inner, parts, List.filter_append, List.filter_append, name, ending,
    filter_statementParts, List.nil_append, List.append_nil]

/-- In the drawing of a body the lines of the statements with a breakpoint are marked. -/
theorem markedLines_digraph {font : String} {graph : Dot.Digraph}
    (h : b.digraph breakpoints font = .ok graph)
    (unmarked : ∀ block ∈ b.blocks, block.terminator.ending.Unmarked) :
    graph.markedLines = (b.marked breakpoints).map fun s => .text (s.shownLine true) := by
  obtain ⟨nodes, hnodes, hgraph⟩ := bind_eq_ok_iff.1 h
  obtain rfl := pure_eq_ok_iff.1 hgraph
  let lines (p : Block × Nat) : List NodePart :=
    (p.1.statements.zipIdx.filter fun q => breakpoints.contains ⟨p.2, q.2⟩).map
      fun q => .text (q.1.shownLine true)
  have each : List.Forall₂ (fun p n => lines p = n.markedLines) b.blocks.zipIdx nodes := by
    have made := (List.forall₂_and_left _ _).2 ⟨fun p hp => hp, mapM_eq_ok_iff.1 hnodes⟩
    refine made.imp fun p n hn => ?_
    exact (markedLines_node hn.2 (unmarked p.1 (List.fst_mem_of_mem_zipIdx hn.1))).symm
  have same : b.blocks.zipIdx.map lines = nodes.map Dot.Node.markedLines := by
    rw [← List.forall₂_eq_eq_eq, List.forall₂_map_left_iff, List.forall₂_map_right_iff]
    exact each
  have all : (b.marked breakpoints).map (fun s => NodePart.text (s.shownLine true)) =
      b.blocks.zipIdx.flatMap lines := by
    simp only [marked, statements, List.filter_flatMap, List.map_flatMap, List.filter_map,
      List.map_map]
    rfl
  rw [Dot.Digraph.markedLines, List.flatMap_def, ← same, ← List.flatMap_def, all]

/-! ## Counting -/

theorem mem_endings {l : Location} :
    l ∈ b.endings ↔ ∃ (n : Nat) (block : Block), b.blocks[n]? = some block ∧
      l = ⟨n, block.statements.length⟩ := by
  simp only [endings, List.mem_map, Prod.exists, List.mk_mem_zipIdx_iff_getElem?]
  constructor
  · rintro ⟨block, n, hn, rfl⟩
    exact ⟨n, block, hn, rfl⟩
  · rintro ⟨n, block, hn, rfl⟩
    exact ⟨block, n, hn, rfl⟩

theorem mem_map_fst_statements {l : Location} :
    l ∈ b.statements.map Prod.fst ↔ ∃ (n i : Nat) (block : Block), b.blocks[n]? = some block ∧
      i < block.statements.length ∧ l = ⟨n, i⟩ := by
  simp only [statements, List.mem_map, List.mem_flatMap, Prod.exists,
    List.mk_mem_zipIdx_iff_getElem?]
  constructor
  · rintro ⟨l, s, ⟨block, n, hn, s', i, hi, heq⟩, rfl⟩
    obtain ⟨rfl, rfl⟩ := Prod.mk.inj heq
    exact ⟨n, i, block, hn, (List.getElem?_eq_some_iff.1 hi).1, rfl⟩
  · rintro ⟨n, i, block, hn, hi, rfl⟩
    exact ⟨_, _, ⟨block, n, hn, _, i, List.getElem?_eq_getElem hi, rfl⟩, rfl⟩

/-- Each statement has a place of its own. -/
theorem nodup_map_fst_statements (b : Body) : (b.statements.map Prod.fst).Nodup := by
  have places : b.statements.map Prod.fst =
      b.blocks.zipIdx.flatMap fun p =>
        p.1.statements.zipIdx.map fun q => (⟨p.2, q.2⟩ : Location) := by
    simp only [statements, List.map_flatMap, List.map_map]
    rfl
  rw [places, List.nodup_flatMap]
  constructor
  · intro p _
    have apart : Function.Injective fun i : Nat => (⟨p.2, i⟩ : Location) :=
      fun i j hij => by simpa using hij
    have := (List.nodup_zipIdx_map_snd p.1.statements).map apart
    rwa [List.map_map] at this
  · have blocks := List.pairwise_map.1 (List.nodup_zipIdx_map_snd b.blocks)
    refine blocks.imp fun {p p'} hne => List.disjoint_left.2 fun l hl hl' => ?_
    obtain ⟨q, -, rfl⟩ := List.mem_map.1 hl
    obtain ⟨q', -, heq⟩ := List.mem_map.1 hl'
    exact hne (by simpa using (congrArg Location.block heq).symm)

/-- A statement is not where a block ends. -/
theorem notMem_endings_of_mem_statements {l : Location} (h : l ∈ b.statements.map Prod.fst) :
    l ∉ b.endings := by
  obtain ⟨n, i, block, hn, hi, rfl⟩ := mem_map_fst_statements.1 h
  intro hmem
  obtain ⟨m, block', hm, heq⟩ := mem_endings.1 hmem
  simp only [Location.mk.injEq, Nat.cast_inj] at heq
  obtain ⟨rfl, rfl⟩ := heq
  obtain rfl := Option.some.inj (hn.symm.trans hm)
  exact lt_irrefl _ hi

/-- Each breakpoint either marks one statement or is where a block ends. -/
theorem length_marked (distinct : breakpoints.places.Nodup)
    (placed : ∀ l ∈ breakpoints.places, l ∈ b.statements.map Prod.fst ∨ l ∈ b.endings) :
    (b.marked breakpoints).length + (breakpoints.places.filter (· ∈ b.endings)).length =
      breakpoints.size := by
  have same : ((b.statements.map Prod.fst).filter breakpoints.contains).Perm
      (breakpoints.places.filter fun l => !decide (l ∈ b.endings)) := by
    refine (List.perm_ext_iff_of_nodup (b.nodup_map_fst_statements.filter _)
      (distinct.filter _)).2 fun l => ?_
    simp only [List.mem_filter, Breakpoints.contains, List.contains_iff_mem, Bool.not_eq_true',
      decide_eq_false_iff_not]
    constructor
    · rintro ⟨hs, hl⟩
      exact ⟨hl, notMem_endings_of_mem_statements hs⟩
    · rintro ⟨hl, hne⟩
      exact ⟨(placed l hl).resolve_right hne, hl⟩
  have marks : (b.marked breakpoints).length =
      (breakpoints.places.filter fun l => !decide (l ∈ b.endings)).length := by
    rw [← same.length_eq, List.filter_map, marked, List.length_map, List.length_map]
    rfl
  rw [marks, Breakpoints.size, Nat.add_comm]
  exact (List.length_eq_length_filter_add _).symm

end Body

/-! ## Breakpoints on source lines -/

namespace Bytecode

theorem Instruction.isMarked_call {i : Instruction} (h : i.isCall) (more : List Char) :
    "+ ".toList.isPrefixOf (i.name.toList ++ more) = false := by
  obtain ⟨rest, hrest⟩ := List.isPrefixOf_iff_prefix.1 h
  rw [← hrest]
  rfl

theorem Code.unmarked_endingOf (code : Code) (n : Nat) (group : List Instruction) :
    (code.endingOf n group).Unmarked := by
  intro head hhead
  unfold endingOf at hhead
  cases hown : code.ownEnding? n group with
  | none =>
    rw [hown, Option.getD_none, fallThrough] at hhead
    split at hhead
    · cases hhead
      rfl
    · cases hhead
      rfl
  | some e =>
    rw [hown, Option.getD_some] at hhead
    obtain ⟨last, -, he⟩ := Option.bind_eq_some_iff.1 hown
    rcases ending?_cases he with ⟨t, -, -, rfl⟩ | ⟨t, label, -, -, -, -, rfl⟩ |
      ⟨-, rfl⟩ | ⟨-, rfl⟩ | ⟨t, arguments, hcall, -, -, rfl⟩
    · cases hhead
      rfl
    · cases hhead
      simp only [NodePart.isMarked, String.toList_append, List.append_assoc]
      rfl
    · cases hhead
      rfl
    · cases hhead
      rfl
    · cases hhead
      simp only [NodePart.isMarked, String.toList_append, List.append_assoc]
      exact Instruction.isMarked_call hcall _

/-- The graph of a code can be drawn, with a mark for just the statements with a breakpoint. -/
theorem CodeGraph.exists_markedLines {code : Code} (h : code.Regular) {source file : String}
    {g : CodeGraph} (hg : codeGraph code source file = .ok g) (breakpoints : Breakpoints)
    (font : String) :
    ∃ graph, g.body.digraph breakpoints font = .ok graph ∧
      graph.markedLines = (g.body.marked breakpoints).map fun s => .text (s.shownLine true) := by
  obtain ⟨origin, -, hs⟩ := shows_of_codeGraph h hg
  have concrete : ∀ block ∈ g.body.blocks, block.terminator.ending ≠ .unspecified :=
    fun block hblock => hs.ending_ne_unspecified hblock
  have unmarked : ∀ block ∈ g.body.blocks, block.terminator.ending.Unmarked := by
    intro block hblock
    obtain ⟨n, hn⟩ := List.getElem?_of_mem hblock
    obtain ⟨group, -, hmade⟩ := hs.exists_group hn
    rw [hmade.ending]
    exact code.unmarked_endingOf n group
  obtain ⟨graph, hgraph⟩ := Body.exists_digraph concrete breakpoints font
  exact ⟨graph, hgraph, Body.markedLines_digraph hgraph unmarked⟩

/-- A line starts at a statement or where a block ends. -/
theorem CodeGraph.mem_statements_or_endings {code : Code} (h : code.Regular)
    {source file : String} {g : CodeGraph} (hg : codeGraph code source file = .ok g)
    {lines : List Int} {l : Location} (hl : l ∈ (g.breakpointsForLines lines).places) :
    l ∈ g.body.statements.map Prod.fst ∨ l ∈ g.body.endings := by
  obtain ⟨origin, -, hs⟩ := shows_of_codeGraph h hg
  obtain ⟨line, -, i, -, hi⟩ := (mem_breakpointsForLines h hg).1 hl
  obtain ⟨n, group, block, -, hb, hn, hplace⟩ :=
    hs.mem_values_iff_of_block.1 (hs.mem_values_iff.2 ⟨i, hi⟩)
  obtain ⟨m, k⟩ := l
  dsimp only at hn hplace
  rcases hplace with ⟨hpos, hlt⟩ | ⟨heq, -⟩
  · obtain ⟨k, rfl⟩ := Int.eq_ofNat_of_zero_le hpos
    exact .inl (Body.mem_map_fst_statements.2 ⟨n, k, block, hb, by omega, by rw [hn]⟩)
  · exact .inr (Body.mem_endings.2 ⟨n, block, hb, by rw [hn, heq]⟩)

/-- Breakpoints on source lines are at the first visible instructions of the lines. In the drawing
of the code, the statements among these are marked and nothing else is, each of them once, so that
the number of marks is the number of breakpoints just if no line starts with an instruction that
ends its block. -/
theorem marks_breakpointsForLines {code : Code} (h : code.Regular) (source file : String)
    (lines : List Int) (font : String) :
    ∃ g graph, codeGraph code source file = .ok g ∧
      g.body.digraph (g.breakpointsForLines lines) font = .ok graph ∧
      (∀ l, l ∈ (g.breakpointsForLines lines).places ↔
        ∃ line ∈ lines, ∃ i, code.firstOn? line = some i ∧ code.PlacedAt i l) ∧
      graph.markedLines =
        (g.body.marked (g.breakpointsForLines lines)).map (fun s => .text (s.shownLine true)) ∧
      graph.markedLines.length +
          ((g.breakpointsForLines lines).places.filter (· ∈ g.body.endings)).length =
        (g.breakpointsForLines lines).size ∧
      (graph.markedLines.length = (g.breakpointsForLines lines).size ↔
        ∀ l ∈ (g.breakpointsForLines lines).places, l ∉ g.body.endings) := by
  obtain ⟨g, hg⟩ := exists_codeGraph h source file
  obtain ⟨graph, hgraph, marks⟩ :=
    CodeGraph.exists_markedLines h hg (g.breakpointsForLines lines) font
  have total : graph.markedLines.length +
      ((g.breakpointsForLines lines).places.filter (· ∈ g.body.endings)).length =
        (g.breakpointsForLines lines).size := by
    rw [marks, List.length_map]
    exact Body.length_marked (Breakpoints.nodup_ofList _)
      fun l hl => CodeGraph.mem_statements_or_endings h hg hl
  refine ⟨g, graph, hg, hgraph, fun l => CodeGraph.mem_breakpointsForLines h hg, marks, total, ?_⟩
  have none : ((g.breakpointsForLines lines).places.filter (· ∈ g.body.endings)).length = 0 ↔
      ∀ l ∈ (g.breakpointsForLines lines).places, l ∉ g.body.endings := by
    simp
  rw [← none]
  omega

/-- The code of an assignment and, on the next line, a statement that is just a raise. -/
def assignThenRaise : Code where
  file := "prog.src"
  instructions := [
    ⟨0, 151, "RESUME", some 0, some 0, "", some ⟨some 0, some 1, some 0, some 0⟩⟩,
    ⟨2, 100, "LOAD_CONST", some 0, some 1, "1", some ⟨some 1, some 1, some 4, some 5⟩⟩,
    ⟨4, 90, "STORE_NAME", some 0, none, "x", some ⟨some 1, some 1, some 0, some 1⟩⟩,
    ⟨6, 130, "RAISE_VARARGS", some 0, some 0, "", some ⟨some 2, some 2, some 0, some 5⟩⟩]

theorem assignThenRaise_regular : assignThenRaise.Regular := by
  constructor <;> decide

theorem marks_breakpointsForLines_assignThenRaise : assignThenRaise.Regular ∧
    ∃ g graph, codeGraph assignThenRaise "x = 1\nraise" = .ok g ∧
      g.body.digraph (g.breakpointsForLines [1, 9]) "monospace" = .ok graph ∧
      ⟨0, 1⟩ ∈ (g.breakpointsForLines [1, 9]).places ∧
      graph.markedLines.length +
          ((g.breakpointsForLines [1, 9]).places.filter (· ∈ g.body.endings)).length =
        (g.breakpointsForLines [1, 9]).size := by
  obtain ⟨g, graph, hg, hgraph, places, -, total, -⟩ :=
    marks_breakpointsForLines assignThenRaise_regular "x = 1\nraise" "" [1, 9] "monospace"
  refine ⟨assignThenRaise_regular, g, graph, hg, hgraph, ?_, total⟩
  have first : assignThenRaise.groups[0]? = some assignThenRaise.instructions := by decide +kernel
  exact (places _).2 ⟨1, List.mem_cons_self, _, rfl, 0, _, 1, first, rfl, rfl⟩

/-- The raise ends its block, so that the breakpoint on its line is not drawn. -/
theorem markedLines_assignThenRaise : assignThenRaise.Regular ∧
    ∃ g graph, codeGraph assignThenRaise "x = 1\nraise" = .ok g ∧
      g.body.digraph (g.breakpointsForLines [1, 2]) "monospace" = .ok graph ∧
      graph.markedLines = [.text "+   2: LOAD_CONST 1"] ∧
      (g.breakpointsForLines [1, 2]).size = 2 := by
  have run : (do
      let g ← codeGraph assignThenRaise "x = 1\nraise"
      let breakpoints := g.breakpointsForLines [1, 2]
      return ((g.body.marked breakpoints).map (·.shownLine true), breakpoints.size)) =
        (.ok (["+   2: LOAD_CONST 1"], 2) : Except Failure _) := by decide +kernel
  obtain ⟨g, hg, run⟩ := bind_eq_ok_iff.1 run
  obtain ⟨marked, size⟩ := Prod.mk.inj (pure_eq_ok_iff.1 run)
  obtain ⟨graph, hgraph, marks⟩ := CodeGraph.exists_markedLines assignThenRaise_regular hg
    (g.breakpointsForLines [1, 2]) "monospace"
  have lines := congrArg (List.map NodePart.text) marked
  rw [List.map_map] at lines
  exact ⟨assignThenRaise_regular, g, graph, hg, hgraph, marks.trans lines, size⟩

end Bytecode

end TraceLens
