import Mathlib.Data.List.Sigma
import TraceLens.Proofs.Dot.Document
import TraceLens.Proofs.Graph.DrawnNode
import TraceLens.Settings

/-!
# Reading the text of a drawing

The text that a body is drawn from names its blocks in their order, each with a table, and after
them their successors. Whatever the texts of its statements and operands are, their brackets are
escaped, so that a table is read up to its own end.

Main statement: `read?_digraph` says that the text is read as the blocks and successors of the body,
and that the blocks are met in their order. A label can be read as another one when it looks like a
plain identifier and has a line feed at its end (`read?_lineFeedLabel`).
-/

namespace TraceLens

open Dot (Balanced balanced_tag balanced_of_notMem)

/-! ## Tables -/

theorem balanced_plainTag (tag : List Char) (opening : '<' ∉ tag) (closing : '>' ∉ tag) :
    Balanced ('<' :: tag ++ ['>']) :=
  balanced_tag (balanced_of_notMem opening closing)

theorem balanced_flatMap {α : Type} {write : α → List Char} {xs : List α}
    (h : ∀ x ∈ xs, Balanced (write x)) : Balanced (xs.flatMap write) := by
  induction xs with
  | nil => exact balanced_of_notMem List.not_mem_nil List.not_mem_nil
  | cons x xs ih =>
    have rest := ih fun y hy => h y (List.mem_cons_of_mem _ hy)
    exact (h x List.mem_cons_self).append rest

theorem balanced_labelCell {attributes content : String} (opening : '<' ∉ attributes.toList)
    (closing : '>' ∉ attributes.toList) (h : Balanced content.toList) :
    Balanced (labelCell attributes content).toList := by
  have row : Balanced "<tr>".toList :=
    balanced_plainTag "tr".toList (by decide) (by decide)
  have cell : Balanced ('<' :: ("td ".toList ++ attributes.toList) ++ ['>']) :=
    balanced_plainTag _ (by simp [opening]) (by simp [closing])
  have cellEnd : Balanced "</td>".toList :=
    balanced_plainTag "/td".toList (by decide) (by decide)
  have rowEnd : Balanced "</tr>".toList :=
    balanced_plainTag "/tr".toList (by decide) (by decide)
  have text : (labelCell attributes content).toList =
      "<tr>".toList ++ (('<' :: ("td ".toList ++ attributes.toList) ++ ['>']) ++
        (content.toList ++ ("</td>".toList ++ "</tr>".toList))) := by
    simp [labelCell]
  rw [text]
  exact row.append (cell.append (h.append (cellEnd.append rowEnd)))

theorem balanced_statementLines (breakpoints : Breakpoints) (k : Nat) (ss : List Statement) :
    Balanced (String.join (statementLines breakpoints k 0 ss)).toList := by
  rw [statementLines_eq, String.toList_join, List.flatMap_map]
  refine balanced_flatMap fun p _ => ?_
  obtain ⟨opening, closing⟩ := p.1.notMem_lineStart (breakpoints.contains ⟨k, p.2⟩)
  have lineBreak : Balanced "<br/>".toList :=
    balanced_plainTag "br/".toList (by decide) (by decide)
  rw [Statement.toList_labelLine]
  exact (balanced_of_notMem opening closing).append lineBreak

/-- The brackets of a table are its own tags. -/
theorem balanced_label {block : Block} {b : Body} {k : Nat} {breakpoints : Breakpoints}
    {table : String} (h : block.label (b.nodeName k) k breakpoints = .ok table) :
    Balanced table.toList := by
  obtain ⟨head, hhead, -⟩ := bind_eq_ok_iff.1 h
  obtain rfl := Except.ok.inj ((Block.label_eq hhead (b.nodeName k) k breakpoints).symm.trans h)
  have opening : Balanced ('<' ::
      "table border=\"0\" cellborder=\"1\" cellspacing=\"0\"".toList ++ ['>']) :=
    balanced_plainTag _ (by decide) (by decide)
  have title : Balanced (labelCell "bgcolor=\"gray\" align=\"center\"" (b.nodeName k)).toList :=
    balanced_labelCell (by decide) (by decide)
      (balanced_of_notMem (Body.notMem_nodeName rfl k) (Body.notMem_nodeName rfl k))
  have middle : Balanced (if block.statements.isEmpty then "" else
      labelCell "align=\"left\" balign=\"left\""
        (String.join (statementLines breakpoints k 0 block.statements))).toList := by
    split
    · exact balanced_of_notMem List.not_mem_nil List.not_mem_nil
    · exact balanced_labelCell (by decide) (by decide) (balanced_statementLines _ _ _)
  have foot : Balanced (labelCell "align=\"left\"" (Html.escape head)).toList :=
    balanced_labelCell (by decide) (by decide)
      (balanced_of_notMem (notMem_escape head).1 (notMem_escape head).2)
  have closing : Balanced "</table>".toList :=
    balanced_plainTag "/table".toList (by decide) (by decide)
  have whole := opening.append (title.append (middle.append (foot.append closing)))
  rw [List.append_assoc, List.singleton_append] at whole
  rw [toList_table]
  exact whole

/-! ## The whole text -/

namespace Body

variable {b : Body} {breakpoints : Breakpoints} {tables : List String}

theorem nodeName_writes (i : Int) : Dot.Writes (b.nodeName i) (.text (b.nodeName i)) :=
  (Dot.Kept.of_notMem (notMem_nodeName rfl i) (notMem_nodeName rfl i)
    (notMem_nodeName rfl i)).writes

theorem graphName_writes : Dot.Writes b.graphName (.text b.graphName) :=
  (Dot.Kept.of_notMem (notMem_graphName rfl) (notMem_graphName rfl) (notMem_graphName rfl)).writes

/-- Each block of a body has its table. -/
def Tables (b : Body) (breakpoints : Breakpoints) (tables : List String) : Prop :=
  List.Forall₂ (fun p table => p.1.label (b.nodeName p.2) p.2 breakpoints = .ok table)
    b.blocks.zipIdx tables

/-- What the text of a body's drawing says: its fonts, its blocks with their tables, and their
successors. -/
def document (b : Body) (font : String) (tables : List String) : Dot.Document where
  name := .text b.graphName
  statements :=
    ["graph", "node", "edge"].map (Dot.fontStatement (.text font)) ++
      (tables.zipIdx.map fun p => Dot.nodeStatement (.text (b.nodeName p.2)) (.html p.1)) ++
      b.blocks.zipIdx.flatMap fun p => p.1.terminator.ending.successors.map fun s =>
        Dot.edgeStatement (.text (b.nodeName p.2)) (.text (b.nodeName s.1)) (.text s.2)

theorem exists_tables (concrete : ∀ block ∈ b.blocks, block.terminator.ending ≠ .unspecified)
    (breakpoints : Breakpoints) : ∃ tables, b.Tables breakpoints tables := by
  have one : ∀ p ∈ b.blocks.zipIdx,
      ∃ table, p.1.label (b.nodeName p.2) p.2 breakpoints = .ok table := by
    intro p hp
    obtain ⟨head, hhead⟩ := Ending.exists_head (concrete p.1 (List.fst_mem_of_mem_zipIdx hp))
    exact ⟨_, Block.label_eq hhead _ _ _⟩
  obtain ⟨tables, h⟩ := exists_mapM_eq_ok one
  exact ⟨tables, mapM_eq_ok_iff.1 h⟩

theorem mapM_node {blocks : List Block} {n : Nat}
    (h : List.Forall₂ (fun p table => p.1.label (b.nodeName p.2) p.2 breakpoints = .ok table)
      (blocks.zipIdx n) tables) :
    (blocks.zipIdx n).mapM (fun p => b.node breakpoints p.1 p.2) =
      .ok ((tables.zipIdx n).map fun p => ⟨b.nodeName p.2, "<" ++ p.1 ++ ">"⟩) := by
  rw [mapM_eq_ok_iff]
  induction blocks generalizing n tables with
  | nil =>
    obtain rfl := List.forall₂_nil_left_iff.1 h
    exact .nil
  | cons block blocks ih =>
    obtain ⟨table, rest, first, hrest, rfl⟩ := List.forall₂_cons_left_iff.1 h
    refine .cons ?_ (ih hrest)
    rw [node]
    exact bind_eq_ok_iff.2 ⟨table, first, rfl⟩

theorem Tables.digraph_eq (h : b.Tables breakpoints tables) (font : String) :
    b.digraph breakpoints font = .ok {
      name := b.graphName
      font
      nodes := tables.zipIdx.map fun p => ⟨b.nodeName p.2, "<" ++ p.1 ++ ">"⟩
      edges := b.blocks.zipIdx.flatMap fun p => b.edgesFrom p.1 p.2 } :=
  bind_eq_ok_iff.2 ⟨_, mapM_node h, rfl⟩

theorem Tables.balanced (h : b.Tables breakpoints tables) {table : String} (hmem : table ∈ tables) :
    Balanced table.toList := by
  obtain ⟨k, hk⟩ := List.getElem?_of_mem hmem
  obtain ⟨p, -, hp⟩ := exists_getElem?_left h hk
  exact balanced_label hp

theorem Tables.reads_nodes (h : b.Tables breakpoints tables) :
    List.Forall₂ (fun (n : Dot.Node) (s : Dot.Statement) =>
        Dot.Reads .between n.text.toList s.tokens .between)
      (tables.zipIdx.map fun p => ⟨b.nodeName p.2, "<" ++ p.1 ++ ">"⟩)
      (tables.zipIdx.map fun p => Dot.nodeStatement (.text (b.nodeName p.2)) (.html p.1)) := by
  rw [List.forall₂_map_left_iff, List.forall₂_map_right_iff, List.forall₂_same]
  intro p hp
  have balanced := h.balanced (List.fst_mem_of_mem_zipIdx hp)
  exact Dot.reads_node (nodeName_writes p.2) balanced.writes

/-- The text of a drawing is read as what it was made from. -/
theorem Tables.read?_text (h : b.Tables breakpoints tables) {font : String}
    (hfont : Dot.Kept font.toList)
    (labels : ∀ block ∈ b.blocks, ∀ s ∈ block.terminator.ending.successors, Dot.Kept s.2.toList)
    {graph : Dot.Digraph} (hgraph : b.digraph breakpoints font = .ok graph) :
    Dot.read? graph.text = some (b.document font tables) := by
  obtain rfl := Except.ok.inj ((h.digraph_eq font).symm.trans hgraph)
  refine Dot.read?_text graphName_writes hfont.writes h.reads_nodes ?_
  have same : (b.blocks.zipIdx.flatMap fun p => p.1.terminator.ending.successors.map fun s =>
      Dot.edgeStatement (.text (b.nodeName p.2)) (.text (b.nodeName s.1)) (.text s.2)) =
      (b.blocks.zipIdx.flatMap fun p => b.edgesFrom p.1 p.2).map fun e =>
        Dot.edgeStatement (.text e.source) (.text e.target) (.text e.label) := by
    simp only [edgesFrom, List.map_flatMap, List.map_map]
    rfl
  rw [same, List.forall₂_map_right_iff, List.forall₂_same]
  intro e he
  obtain ⟨p, hp, he⟩ := List.mem_flatMap.1 he
  obtain ⟨s, hs, rfl⟩ := List.mem_map.1 he
  have label := labels p.1 (List.fst_mem_of_mem_zipIdx hp) s hs
  exact Dot.reads_edge (nodeName_writes p.2) (nodeName_writes s.1) label.writes

/-- The node of a block is met when those of the blocks before it have been. -/
theorem Tables.getElem?_nodes (h : b.Tables breakpoints tables) (font : String) {k : Nat}
    (hk : k < b.blocks.length) :
    (b.document font tables).nodes[k]? = some (.text (b.nodeName k)) := by
  let names : List Dot.Ident := tables.zipIdx.map fun p => .text (b.nodeName p.2)
  have length : tables.length = b.blocks.length := by
    have := h.length_eq
    rwa [List.length_zipIdx, eq_comm] at this
  have nodes : (tables.zipIdx.map fun p =>
      Dot.nodeStatement (.text (b.nodeName p.2)) (.html p.1)).flatMap (·.subject.nodes) = names :=
    (List.flatMap_map ..).trans List.map_eq_flatMap.symm
  obtain ⟨more, mentioned⟩ : ∃ more,
      (b.document font tables).statements.flatMap (·.subject.nodes) = names ++ more := by
    simp only [document, List.flatMap_append, nodes]
    exact ⟨_, rfl⟩
  have once : names.Nodup := by
    have apart : Function.Injective fun i : Nat => Dot.Ident.text (b.nodeName i) :=
      fun i j hij => by exact_mod_cast nodeName_inj.1 (Dot.Ident.text.inj hij)
    have := (List.nodup_zipIdx_map_snd tables).map apart
    rwa [List.map_map] at this
  rw [Dot.Document.getElem?_nodes mentioned once (by simpa [names, length] using hk)]
  simp [names, length, hk]

/-- The text of the drawing of a body, whatever its statements are and in which places there are
breakpoints, is read as one node for each block, in their order and each with its table, and then
one edge for each successor, so that the node of block `k` is met after `k` others. -/
theorem read?_digraph (b : Body) (breakpoints : Breakpoints)
    (concrete : ∀ block ∈ b.blocks, block.terminator.ending ≠ .unspecified)
    (labels : ∀ block ∈ b.blocks, ∀ s ∈ block.terminator.ending.successors, Dot.Kept s.2.toList) :
    ∃ graph tables, b.digraph breakpoints ({} : Settings).font = .ok graph ∧
      b.Tables breakpoints tables ∧
      Dot.read? graph.text = some (b.document ({} : Settings).font tables) ∧
      ∀ k < b.blocks.length,
        (b.document ({} : Settings).font tables).nodes[k]? = some (.text (b.nodeName k)) := by
  obtain ⟨tables, htables⟩ := exists_tables concrete breakpoints
  have font : Dot.Kept ({} : Settings).font.toList :=
    .of_notMem (by decide) (by decide) (by decide)
  have drawn := htables.digraph_eq ({} : Settings).font
  exact ⟨_, tables, drawn, htables, htables.read?_text font labels drawn,
    fun k hk => htables.getElem?_nodes _ hk⟩

/-- A part of a body with a statement that looks like an edge and labels that need quotes. -/
def quotedLabels : Body where
  blocks := [
    ⟨[⟨"a -> b [label=<\"x>]", .ofRegion ⟨"main.rs", 0, 5⟩, false⟩],
      ⟨.ofRegion ⟨"main.rs", 5, 9⟩, .switch "a\n<b" [("say \"hi\"", 1), ("0\n\n", 7)] 0⟩⟩,
    ⟨[], ⟨.ofRegion ⟨"main.rs", 9, 12⟩, .call "f" [] none none (some (-1))⟩⟩]
  span := .ofRegion ⟨"main.rs", 0, 12⟩
  promoted := some 2

theorem read?_digraph_quotedLabels :
    (∀ block ∈ quotedLabels.blocks, block.terminator.ending ≠ .unspecified) ∧
    (∀ block ∈ quotedLabels.blocks, ∀ s ∈ block.terminator.ending.successors,
      Dot.Kept s.2.toList) ∧
    ∃ (graph : Dot.Digraph) (document : Dot.Document),
      quotedLabels.digraph ⟨[⟨0, 0⟩]⟩ "monospace" = .ok graph ∧
      Dot.read? graph.text = some document ∧
      document.nodes[1]? = some (Dot.Ident.text "promoted2.1") ∧
      Dot.edgeStatement (.text "promoted2.0") (.text "promoted2.7") (.text "0\n\n") ∈
        document.statements := by
  have concrete : ∀ block ∈ quotedLabels.blocks, block.terminator.ending ≠ .unspecified := by
    decide
  have labels : ∀ block ∈ quotedLabels.blocks, ∀ s ∈ block.terminator.ending.successors,
      Dot.Kept s.2.toList := by decide
  obtain ⟨graph, tables, drawn, -, read, met⟩ :=
    read?_digraph quotedLabels ⟨[⟨0, 0⟩]⟩ concrete labels
  refine ⟨concrete, labels, graph, _, drawn, read, met 1 (by decide), ?_⟩
  exact List.mem_append_right _ (.tail _ (.head _))

/-- A body with a branch for a number and a line feed. -/
def lineFeedLabel : Body where
  blocks := [⟨[], ⟨.ofRegion ⟨"main.rs", 0, 3⟩, .switch "x" [("1\n", 0)] 0⟩⟩]
  span := .ofRegion ⟨"main.rs", 0, 3⟩

/-- The line feed of a label is lost, though there is no backslash or bracket in the label. -/
theorem read?_lineFeedLabel :
    (∀ block ∈ lineFeedLabel.blocks, block.terminator.ending ≠ .unspecified) ∧
    (∀ block ∈ lineFeedLabel.blocks, ∀ s ∈ block.terminator.ending.successors,
      '\\' ∉ s.2.toList ∧ '<' ∉ s.2.toList) ∧
    ¬ ∃ graph tables, lineFeedLabel.digraph {} ({} : Settings).font = .ok graph ∧
      Dot.read? graph.text = some (lineFeedLabel.document ({} : Settings).font tables) := by
  have concrete : ∀ block ∈ lineFeedLabel.blocks, block.terminator.ending ≠ .unspecified := by
    decide
  have plain : ∀ block ∈ lineFeedLabel.blocks, ∀ s ∈ block.terminator.ending.successors,
      '\\' ∉ s.2.toList ∧ '<' ∉ s.2.toList := by decide
  refine ⟨concrete, plain, ?_⟩
  rintro ⟨graph, tables, drawn, read⟩
  let name := lineFeedLabel.nodeName 0
  have edges : (lineFeedLabel.blocks.zipIdx.flatMap fun p => lineFeedLabel.edgesFrom p.1 p.2) =
      [⟨name, name, "1\n"⟩, ⟨name, name, "otherwise"⟩] := rfl
  obtain ⟨tables', htables⟩ := exists_tables concrete {}
  have known := htables.digraph_eq ({} : Settings).font
  rw [edges] at known
  obtain rfl := Except.ok.inj (known.symm.trans drawn)
  have font : Dot.Kept ({} : Settings).font.toList := by decide
  have number : Dot.Writes "1\n" (.text "1") := by
    intro c tokens hc
    have unquoted : Dot.isPlain (['1'] ++ ['\n']) = true := by decide
    exact Dot.reads_quotedChars_lineFeed unquoted (by decide) hc
  have other : Dot.Writes "otherwise" (.text "otherwise") := Dot.Kept.writes (by decide)
  have source : Dot.Writes name (.text name) := nodeName_writes 0
  have first := Dot.reads_edge (e := ⟨name, name, "1\n"⟩) source source number
  have second := Dot.reads_edge (e := ⟨name, name, "otherwise"⟩) source source other
  have lost := Dot.read?_text (g := ⟨_, _, _, _⟩) (graphName_writes (b := lineFeedLabel))
    font.writes htables.reads_nodes (.cons first (.cons second .nil))
  have stated : Dot.edgeStatement (.text name) (.text name) (.text "1\n") ∈
      (lineFeedLabel.document ({} : Settings).font tables).statements :=
    List.mem_append_right _ (.head _)
  rw [Option.some.inj (read.symm.trans lost)] at stated
  simp [Dot.fontStatement, Dot.nodeStatement, Dot.edgeStatement] at stated

end Body

end TraceLens
