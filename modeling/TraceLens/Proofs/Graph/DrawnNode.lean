import TraceLens.Proofs.Graph.NodeName
import TraceLens.Proofs.Text.Markup
import TraceLens.Proofs.Pane.Rendering

/-!
# What is drawn for a node

A node that is drawn from a table has a title and then, for each cell in order, a polygon filled
with the background of the cell if it has one, a polygon for its border, and a text for each line of
it; a line break at the end of a cell begins no line.

Main statements: `nodeParts_label` lists what is drawn for a block, and `rowOf_drawn` says that the
row of a statement or terminator is the text that shows it.
-/

namespace TraceLens

/-! ## Reading the text of a label -/

/-- What one entity in a label stands for, a markup character or a blank that breaks no line, with
the characters after it. -/
def labelEntity? : List Char → Option (Char × List Char)
  | '&' :: 'n' :: 'b' :: 's' :: 'p' :: ';' :: rest => some ('\u00a0', rest)
  | cs => Html.entity? cs

theorem labelEntity?_length {cs rest : List Char} {c : Char}
    (h : labelEntity? cs = some (c, rest)) : rest.length < cs.length := by
  unfold labelEntity? at h
  split at h
  · obtain ⟨-, rfl⟩ := Prod.mk.inj (Option.some.inj h)
    simp only [List.length_cons]
    omega
  · exact Html.entity?_length h

/-- The characters that are shown for a text in a label. -/
def labelShown (cs : List Char) : List Char :=
  match h : labelEntity? cs with
  | some (c, rest) =>
    have : rest.length < cs.length := labelEntity?_length h
    c :: labelShown rest
  | none =>
    match cs with
    | [] => []
    | c :: rest => c :: labelShown rest
termination_by cs.length

theorem labelShown_of_entity {cs rest : List Char} {c : Char}
    (h : labelEntity? cs = some (c, rest)) : labelShown cs = c :: labelShown rest := by
  rw [labelShown]
  split <;> simp_all

theorem labelShown_cons {c : Char} (h : c ≠ '&') (rest : List Char) :
    labelShown (c :: rest) = c :: labelShown rest := by
  have : labelEntity? (c :: rest) = none := by
    unfold labelEntity? Html.entity?
    split <;> simp_all
  rw [labelShown]
  split <;> simp_all

theorem labelShown_of_notMem {cs : List Char} (h : '&' ∉ cs) (rest : List Char) :
    labelShown (cs ++ rest) = cs ++ labelShown rest := by
  induction cs with
  | nil => rfl
  | cons c cs ih =>
    obtain ⟨hc, hcs⟩ := List.ne_and_not_mem_of_not_mem_cons h
    rw [List.cons_append, labelShown_cons hc.symm, ih hcs, List.cons_append]

theorem labelShown_nil : labelShown [] = [] := by
  rw [labelShown]
  simp [labelEntity?, Html.entity?]

theorem labelShown_flatMap_escapeChar (cs : List Char) :
    labelShown (cs.flatMap Html.escapeChar) = cs := by
  have char (c : Char) (rest : List Char) :
      labelShown (Html.escapeChar c ++ rest) = c :: labelShown rest := by
    unfold Html.escapeChar
    split
    iterate 5 exact labelShown_of_entity rfl
    exact labelShown_cons (by assumption) rest
  induction cs with
  | nil => exact labelShown_nil
  | cons c cs ih => rw [List.flatMap_cons, char, ih]

/-! ## Drawing a table -/

/-- A part of the picture of a node. -/
inductive NodePart where
  | title (text : String)
  /-- The background of a cell. -/
  | fill
  | border
  | text (shown : String)
  deriving DecidableEq, Repr

/-- The text of a line. -/
def linePart (line : List Char) : NodePart := .text (String.ofList (labelShown line))

/-- What is drawn at a tag behind a line that is not yet drawn, and what is then left of the
line. -/
def tagParts (tag line : List Char) : List NodePart × List Char :=
  let words := tag.splitOn ' '
  if words.head? = some "td".toList then
    ((if words.any ("bgcolor=".toList.isPrefixOf ·) then [.fill, .border] else [.border]), [])
  else if tag = "br/".toList then ([linePart line], [])
  else if tag = "/td".toList then (if line = [] then [] else [linePart line], [])
  else ([], line)

/-- What is drawn for the rest of a table, where the first argument is the tag that has begun and
the second one the line that is not yet drawn. -/
def tableParts : Option (List Char) → List Char → List Char → List NodePart
  | _, _, [] => []
  | none, line, c :: cs =>
    if c = '<' then tableParts (some []) line cs else tableParts none (line ++ [c]) cs
  | some tag, line, c :: cs =>
    if c = '>' then (tagParts tag line).1 ++ tableParts none (tagParts tag line).2 cs
    else tableParts (some (tag ++ [c])) line cs

/-- The parts of the picture of a node that has a table for its label. -/
def nodeParts (name table : String) : List NodePart :=
  .title name :: tableParts none [] table.toList

section Tables

variable {line rest : List Char} {parts : List NodePart}

theorem tableParts_text {cs : List Char} (h : '<' ∉ cs) :
    tableParts none line (cs ++ rest) = tableParts none (line ++ cs) rest := by
  induction cs generalizing line with
  | nil => simp
  | cons c cs ih =>
    obtain ⟨hc, hcs⟩ := List.ne_and_not_mem_of_not_mem_cons h
    rw [List.cons_append, tableParts, if_neg hc.symm, ih hcs, List.append_assoc,
      List.singleton_append]

theorem tableParts_tag {tag : List Char} (h : '>' ∉ tag) :
    tableParts none line ('<' :: tag ++ '>' :: rest) =
      (tagParts tag line).1 ++ tableParts none (tagParts tag line).2 rest := by
  have inside (begun : List Char) : tableParts (some begun) line (tag ++ '>' :: rest) =
      (tagParts (begun ++ tag) line).1 ++
        tableParts none (tagParts (begun ++ tag) line).2 rest := by
    induction tag generalizing begun with
    | nil => simp [tableParts]
    | cons c tag ih =>
      obtain ⟨hc, htag⟩ := List.ne_and_not_mem_of_not_mem_cons h
      rw [List.cons_append, tableParts, if_neg hc.symm, ih htag, List.append_assoc,
        List.singleton_append]
  rw [List.cons_append, tableParts, if_pos rfl, inside, List.nil_append]

theorem tableParts_break : tableParts none line ("<br/>".toList ++ rest) =
    linePart line :: tableParts none [] rest := rfl

/-- A cell draws its polygons and then what its content draws. -/
theorem tableParts_labelCell {attributes content : String} {polygons : List NodePart}
    (h : '>' ∉ attributes.toList)
    (drawn : tagParts ("td ".toList ++ attributes.toList) [] = (polygons, []))
    (closed : ∀ rest, tableParts none [] (content.toList ++ ("</td></tr>".toList ++ rest)) =
      parts ++ tableParts none [] rest) :
    tableParts none [] ((labelCell attributes content).toList ++ rest) =
      polygons ++ parts ++ tableParts none [] rest := by
  have tag : '>' ∉ "td ".toList ++ attributes.toList := by simp [h]
  have text : (labelCell attributes content).toList ++ rest =
      '<' :: "tr".toList ++ '>' :: ('<' :: ("td ".toList ++ attributes.toList) ++
        '>' :: (content.toList ++ ("</td></tr>".toList ++ rest))) := by simp [labelCell]
  have row : tagParts "tr".toList [] = ([], []) := rfl
  rw [text, tableParts_tag (by decide), row, tableParts_tag tag, drawn, closed, List.nil_append,
    List.append_assoc]

/-- A text that is the whole content of a cell is one line. -/
theorem tableParts_content {cs : List Char} (h : '<' ∉ cs) (hne : cs ≠ []) :
    tableParts none [] (cs ++ ("</td></tr>".toList ++ rest)) =
      [linePart cs] ++ tableParts none [] rest := by
  have closing : tagParts "/td".toList cs = ([linePart cs], []) := by
    have : tagParts "/td".toList cs = (if cs = [] then [] else [linePart cs], []) := rfl
    rw [this, if_neg hne]
  have row : tagParts "/tr".toList [] = ([], []) := rfl
  rw [tableParts_text h, List.nil_append]
  have text : "</td></tr>".toList ++ rest =
      '<' :: "/td".toList ++ '>' :: ('<' :: "/tr".toList ++ '>' :: rest) := by simp
  rw [text, tableParts_tag (by decide), closing, tableParts_tag (by decide), row]
  simp

/-- Texts with a line break after each are the lines of a cell. -/
theorem tableParts_lines {lines : List (List Char)} (h : ∀ cs ∈ lines, '<' ∉ cs) :
    tableParts none [] (lines.flatMap (· ++ "<br/>".toList) ++ ("</td></tr>".toList ++ rest)) =
      lines.map linePart ++ tableParts none [] rest := by
  induction lines with
  | nil => rfl
  | cons cs lines ih =>
    have first : '<' ∉ cs := h cs List.mem_cons_self
    have more := ih fun ds hds => h ds (List.mem_cons_of_mem _ hds)
    rw [List.flatMap_cons, List.append_assoc, List.append_assoc, tableParts_text first,
      List.nil_append, tableParts_break, more]
    rfl

end Tables

/-! ## The picture of a block -/

/-- What is shown of a statement. -/
def Statement.shownText (s : Statement) : String := if s.hidden then "<+>" else s.text

/-- The line that is shown for a statement. -/
def Statement.shownLine (s : Statement) (marked : Bool) : String :=
  (if marked then "+ " else "\u00a0 ") ++ s.shownText

/-- The line of a statement in a label, without its line break. -/
def Statement.lineStart (s : Statement) (marked : Bool) : List Char :=
  (if marked then "+ " else "&nbsp; ").toList ++ s.shownText.toList.flatMap Html.escapeChar

theorem Statement.toList_labelLine (s : Statement) (marked : Bool) :
    (s.labelLine marked).toList = s.lineStart marked ++ "<br/>".toList := by
  have text : (if s.hidden then "&lt;+&gt;" else Html.escape s.text).toList =
      s.shownText.toList.flatMap Html.escapeChar := by
    unfold shownText
    split
    · rfl
    · exact Html.toList_escape _
  rw [labelLine, String.toList_append, String.toList_append, text]
  rfl

theorem notMem_flatMap_escapeChar (cs : List Char) :
    '<' ∉ cs.flatMap Html.escapeChar ∧ '>' ∉ cs.flatMap Html.escapeChar := by
  constructor <;> intro h <;> obtain ⟨c, -, hmem⟩ := List.mem_flatMap.1 h
  · exact (Html.ne_of_mem_escapeChar hmem).1 rfl
  · exact (Html.ne_of_mem_escapeChar hmem).2 rfl

theorem notMem_escape (text : String) :
    '<' ∉ (Html.escape text).toList ∧ '>' ∉ (Html.escape text).toList := by
  rw [Html.toList_escape]
  exact notMem_flatMap_escapeChar _

theorem Statement.notMem_lineStart (s : Statement) (marked : Bool) :
    '<' ∉ s.lineStart marked ∧ '>' ∉ s.lineStart marked := by
  obtain ⟨opening, closing⟩ := notMem_flatMap_escapeChar s.shownText.toList
  rw [lineStart, List.mem_append, List.mem_append, not_or, not_or]
  cases marked with
  | false => exact ⟨⟨by decide, opening⟩, ⟨by decide, closing⟩⟩
  | true => exact ⟨⟨by decide, opening⟩, ⟨by decide, closing⟩⟩

theorem Statement.linePart_lineStart (s : Statement) (marked : Bool) :
    linePart (s.lineStart marked) = .text (s.shownLine marked) := by
  have text : labelShown (s.lineStart marked) = (s.shownLine marked).toList := by
    rw [lineStart, shownLine, String.toList_append]
    cases marked with
    | false =>
      have blank (rest : List Char) :
          labelShown ("&nbsp; ".toList ++ rest) = '\u00a0' :: ' ' :: labelShown rest :=
        (labelShown_of_entity rfl).trans
          (congrArg ('\u00a0' :: ·) (labelShown_cons (by decide) rest))
      exact (blank _).trans (by rw [labelShown_flatMap_escapeChar]; rfl)
    | true =>
      have plus : '&' ∉ "+ ".toList := by decide
      exact (labelShown_of_notMem plus _).trans (by rw [labelShown_flatMap_escapeChar]; rfl)
  rw [linePart, text, String.ofList_toList]

theorem statementLines_eq (breakpoints : Breakpoints) (block i : Nat) (ss : List Statement) :
    statementLines breakpoints block i ss =
      (ss.zipIdx i).map fun p => p.1.labelLine (breakpoints.contains ⟨block, p.2⟩) := by
  induction ss generalizing i with
  | nil => rfl
  | cons s ss ih => rw [statementLines, ih, List.zipIdx_cons, List.map_cons]

/-- The lines of a block's statements in its label, without their line breaks. -/
def statementStarts (breakpoints : Breakpoints) (block : Nat) (ss : List Statement) :
    List (List Char) :=
  ss.zipIdx.map fun p => p.1.lineStart (breakpoints.contains ⟨block, p.2⟩)

theorem toList_join_statementLines (breakpoints : Breakpoints) (block : Nat)
    (ss : List Statement) :
    (String.join (statementLines breakpoints block 0 ss)).toList =
      (statementStarts breakpoints block ss).flatMap (· ++ "<br/>".toList) := by
  simp only [statementLines_eq, String.toList_join, List.flatMap_map, statementStarts,
    Statement.toList_labelLine]

theorem notMem_of_mem_statementStarts {breakpoints : Breakpoints} {block : Nat}
    {ss : List Statement} : ∀ cs ∈ statementStarts breakpoints block ss, '<' ∉ cs :=
  List.forall_mem_map.2 fun p _ => (p.1.notMem_lineStart _).1

/-- What is drawn for a block's statements. -/
theorem tableParts_statementLines (breakpoints : Breakpoints) (block : Nat) (ss : List Statement)
    (rest : List Char) :
    tableParts none [] ((String.join (statementLines breakpoints block 0 ss)).toList ++
        ("</td></tr>".toList ++ rest)) =
      (ss.zipIdx.map fun p =>
          NodePart.text (p.1.shownLine (breakpoints.contains ⟨block, p.2⟩))) ++
        tableParts none [] rest := by
  rw [toList_join_statementLines, tableParts_lines notMem_of_mem_statementStarts, statementStarts,
    List.map_map]
  congr 2
  funext p
  exact p.1.linePart_lineStart _

/-- An ending has some text. -/
theorem Ending.head_ne_empty {e : Ending} {head : String} (h : e.head = .ok head) : head ≠ "" := by
  rintro rfl
  cases e with
  | drop place target cleanup replacement => cases replacement <;> simp [Ending.head] at h
  | call function arguments place target cleanup =>
    cases place with
    | none => simp [Ending.head] at h
    | some place =>
      simp only [Ending.head, Except.ok.injEq] at h
      split at h <;> simp at h
  | _ => simp [Ending.head] at h

theorem Body.nodeName_ne_nil (b : Body) (k : Int) : (b.nodeName k).toList ≠ [] := by
  intro hnil
  have hstart : (nameStart b.promoted).toList = [] := by
    rw [nodeName, nodeName_eq, String.toList_append, List.append_eq_nil_iff] at hnil
    exact hnil.1
  cases hp : b.promoted <;> simp [nameStart, hp] at hstart

theorem Block.label_eq {block : Block} {head : String}
    (h : block.terminator.ending.head = .ok head) (name : String) (k : Nat)
    (breakpoints : Breakpoints) :
    block.label name k breakpoints =
      .ok ("<table border=\"0\" cellborder=\"1\" cellspacing=\"0\">" ++
        labelCell "bgcolor=\"gray\" align=\"center\"" name ++
        (if block.statements.isEmpty then "" else labelCell "align=\"left\" balign=\"left\""
          (String.join (statementLines breakpoints k 0 block.statements))) ++
        labelCell "align=\"left\"" (Html.escape head) ++ "</table>") := by
  rw [label, h]
  rfl

theorem toList_table (title middle foot : String) :
    ("<table border=\"0\" cellborder=\"1\" cellspacing=\"0\">" ++ title ++ middle ++ foot ++
      "</table>").toList =
    '<' :: "table border=\"0\" cellborder=\"1\" cellspacing=\"0\"".toList ++ '>' ::
      (title.toList ++ (middle.toList ++ (foot.toList ++ "</table>".toList))) := by
  simp

/-- The parts of the picture of a block that its statements have. -/
def statementParts (breakpoints : Breakpoints) (block : Nat) (ss : List Statement) :
    List NodePart :=
  if ss = [] then []
  else .border :: ss.zipIdx.map fun p => .text (p.1.shownLine (breakpoints.contains ⟨block, p.2⟩))

theorem Body.linePart_nodeName (b : Body) (k : Nat) :
    linePart (b.nodeName k).toList = .text (b.nodeName k) := by
  have := labelShown_of_notMem (Body.notMem_nodeName (b := b) (c := '&') rfl k) []
  rw [List.append_nil, labelShown_nil, List.append_nil] at this
  rw [linePart, this, String.ofList_toList]

theorem tableParts_nameCell (b : Body) (k : Nat) (rest : List Char) :
    tableParts none [] ((labelCell "bgcolor=\"gray\" align=\"center\"" (b.nodeName k)).toList ++
        rest) =
      [NodePart.fill, NodePart.border, NodePart.text (b.nodeName k)] ++
        tableParts none [] rest := by
  rw [tableParts_labelCell (by decide) rfl fun rest =>
    tableParts_content (Body.notMem_nodeName rfl k) (b.nodeName_ne_nil k), b.linePart_nodeName]
  rfl

theorem tableParts_statementCell (breakpoints : Breakpoints) (block : Nat) (ss : List Statement)
    (rest : List Char) :
    tableParts none [] ((if ss.isEmpty then "" else labelCell "align=\"left\" balign=\"left\""
        (String.join (statementLines breakpoints block 0 ss))).toList ++ rest) =
      statementParts breakpoints block ss ++ tableParts none [] rest := by
  cases ss with
  | nil => rfl
  | cons s ss =>
    rw [List.isEmpty_cons, if_neg Bool.false_ne_true, statementParts,
      if_neg (List.cons_ne_nil s ss), tableParts_labelCell (by decide) rfl fun rest =>
        tableParts_statementLines breakpoints block (s :: ss) rest]
    rfl

theorem linePart_escape (text : String) : linePart (Html.escape text).toList = .text text := by
  rw [linePart, Html.toList_escape, labelShown_flatMap_escapeChar, String.ofList_toList]

theorem Ending.escape_head_ne_nil {e : Ending} {head : String} (h : e.head = .ok head) :
    (Html.escape head).toList ≠ [] := by
  rw [Ne, String.toList_eq_nil_iff, Html.escape_eq_empty_iff]
  exact head_ne_empty h

theorem tableParts_endingCell {e : Ending} {head : String} (h : e.head = .ok head)
    (rest : List Char) :
    tableParts none [] ((labelCell "align=\"left\"" (Html.escape head)).toList ++ rest) =
      [NodePart.border, NodePart.text head] ++ tableParts none [] rest := by
  rw [tableParts_labelCell (by decide) rfl fun rest =>
    tableParts_content (notMem_escape head).1 (Ending.escape_head_ne_nil h), linePart_escape]
  rfl

/-- The picture of a block has a title, the cell of the name, one for the statements if there are
any, and one for the ending. -/
theorem nodeParts_label {block : Block} {head : String}
    (h : block.terminator.ending.head = .ok head) (b : Body) (k : Nat)
    (breakpoints : Breakpoints) :
    ∃ label : String, block.label (b.nodeName k) k breakpoints = .ok label ∧
      nodeParts (b.nodeName k) label =
        [NodePart.title (b.nodeName k), NodePart.fill, NodePart.border,
            NodePart.text (b.nodeName k)] ++
          (statementParts breakpoints k block.statements ++
            [NodePart.border, NodePart.text head]) := by
  refine ⟨_, Block.label_eq h (b.nodeName k) k breakpoints, ?_⟩
  have opening : tagParts "table border=\"0\" cellborder=\"1\" cellspacing=\"0\"".toList [] =
      ([], []) := rfl
  rw [nodeParts, toList_table, tableParts_tag (by decide), opening, tableParts_nameCell,
    tableParts_statementCell, tableParts_endingCell h]
  rfl

/-- The row of each statement of a block, and of its ending, is the text that shows it in the
picture of the block; another index has no row. -/
theorem Block.rowOf_drawn (b : Body) (block : Block) (k : Nat) (breakpoints : Breakpoints) :
    (block.terminator.ending ≠ .unspecified →
      ∃ label head : String, block.label (b.nodeName k) k breakpoints = .ok label ∧
        block.terminator.ending.head = .ok head ∧
        (∀ (i : Nat) (s : Statement), block.statements[i]? = some s →
          ∃ row, block.rowOf i = .ok (row + 1) ∧ (nodeParts (b.nodeName k) label)[row]? =
            some (NodePart.text (s.shownLine (breakpoints.contains ⟨k, i⟩)))) ∧
        ∃ row, block.rowOf block.statements.length = .ok (row + 1) ∧
          (nodeParts (b.nodeName k) label)[row]? = some (NodePart.text head)) ∧
      ∀ i : Int, i < 0 ∨ block.statements.length < i →
        ∃ fault, block.rowOf i = .error (.render fault) := by
  refine ⟨fun concrete => ?_, fun i outside => ⟨_, rowOf_error_iff.2 ⟨outside, rfl⟩⟩⟩
  obtain ⟨head, hhead⟩ := Ending.exists_head concrete
  obtain ⟨label, hlabel, parts⟩ := nodeParts_label hhead b k breakpoints
  refine ⟨label, head, hlabel, hhead, fun i s hs => ?_, ?_⟩
  · obtain ⟨hi, rfl⟩ := List.getElem?_eq_some_iff.1 hs
    have hne : block.statements ≠ [] := List.ne_nil_of_length_pos (by omega)
    refine ⟨i + 5, ?_, ?_⟩
    · have : (i : Int) ≠ block.statements.length := by omega
      simp [rowOf, this, hi, firstStatementRow]
    · rw [parts, statementParts, if_neg hne]
      simp [List.getElem?_append_left, hi]
  · cases hn : block.statements with
    | nil =>
      refine ⟨5, by simp [rowOf, hn, emptyBlockTerminatorRow], ?_⟩
      rw [parts, statementParts, if_pos hn]
      rfl
    | cons s ss =>
      refine ⟨(s :: ss).length + 6, by simp [rowOf, hn, terminatorRowOffset], ?_⟩
      rw [parts, hn, statementParts, if_neg (List.cons_ne_nil s ss)]
      simp

/-- A block with a marked statement that looks like a line break, and a hidden one. -/
def breakingBlock : Block where
  statements := [⟨"<br/>&nbsp;</td>", .ofRegion ⟨"main.rs", 0, 5⟩, false⟩,
    ⟨"StorageDead(_1)", .ofRegion ⟨"main.rs", 5, 9⟩, true⟩]
  terminator := ⟨.ofRegion ⟨"main.rs", 9, 10⟩, .switch "a < b" [] 0⟩

theorem Block.rowOf_drawn_breakingBlock : breakingBlock.terminator.ending ≠ .unspecified ∧
    ∃ label : String, breakingBlock.label "bb3" 3 ⟨[⟨3, 0⟩]⟩ = .ok label ∧
      (nodeParts "bb3" label)[5]? = some (NodePart.text "+ <br/>&nbsp;</td>") ∧
      (nodeParts "bb3" label)[6]? = some (NodePart.text "\u00a0 <+>") ∧
      (nodeParts "bb3" label)[8]? = some (NodePart.text "switchInt(a < b)") := by
  have concrete : breakingBlock.terminator.ending ≠ .unspecified := by decide
  obtain ⟨label, head, hlabel, hhead, statements, row, hrow, ending⟩ :=
    (rowOf_drawn ⟨[], .ofRegion ⟨"main.rs", 0, 10⟩, "", none⟩ breakingBlock 3 ⟨[⟨3, 0⟩]⟩).1 concrete
  obtain ⟨first, hfirst, shown⟩ := statements 0 _ rfl
  obtain ⟨second, hsecond, shown'⟩ := statements 1 _ rfl
  cases hfirst
  cases hsecond
  cases hrow
  cases hhead
  exact ⟨concrete, label, hlabel, shown, shown', ending⟩

end TraceLens
