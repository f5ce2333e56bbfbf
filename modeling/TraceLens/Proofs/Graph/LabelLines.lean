import TraceLens.Proofs.Graph.BreakpointMarks

/-!
# Reading a label back

The label of a block is cut into cells at the tags that close them, and a cell into lines at its
line breaks. Whatever characters the statements and the ending hold, the lines of its cells then
show the name of the node, each statement behind its mark, and the head of the ending.

Main statements: `cellsOf_label` says what the cells of a label are, and `Block.readLabel_label`
what their lines show.
-/

namespace TraceLens

/-! ## Cutting at a mark -/

/-- The pieces of a text between the places where a mark occurs in it. -/
def cutAt (mark cs : List Char) : List (List Char) :=
  go 0 cs
where
  /-- The number says how many characters of a mark are still to be passed over. -/
  go : Nat → List Char → List (List Char)
    | _, [] => [[]]
    | left + 1, _ :: cs => go left cs
    | 0, c :: cs =>
      if mark.isPrefixOf (c :: cs) then [] :: go (mark.length - 1) cs
      else (go 0 cs).modifyHead (c :: ·)

/-- A stretch of text in which no mark begins, whatever comes after it. -/
def Passes (mark stretch : List Char) : Prop :=
  ∀ rest, cutAt mark (stretch ++ rest) = (cutAt mark rest).modifyHead (stretch ++ ·)

section Marks

variable {mark stretch cs : List Char}

theorem cutAt_ne_nil (mark cs : List Char) : cutAt mark cs ≠ [] := by
  have (left : Nat) : cutAt.go mark left cs ≠ [] := by
    fun_induction cutAt.go mark left cs <;> simp_all
  exact this 0

theorem cutAt_cons {c : Char} (h : mark.isPrefixOf (c :: cs) = false) :
    cutAt mark (c :: cs) = (cutAt mark cs).modifyHead (c :: ·) := by
  rw [cutAt, cutAt.go, h]
  rfl

theorem cutAt_mark (hne : mark ≠ []) (rest : List Char) :
    cutAt mark (mark ++ rest) = [] :: cutAt mark rest := by
  -- the rest of the mark is passed over, character by character
  have pass (skipped : List Char) :
      cutAt.go mark skipped.length (skipped ++ rest) = cutAt mark rest := by
    induction skipped with
    | nil => rfl
    | cons c skipped ih => exact ih
  obtain ⟨c, more, rfl⟩ := List.exists_cons_of_ne_nil hne
  have here : (c :: more).isPrefixOf (c :: (more ++ rest)) = true := by simp
  rw [cutAt, List.cons_append, cutAt.go, if_pos here]
  exact congrArg _ (pass more)

namespace Passes

theorem nil : Passes mark [] := by
  intro rest
  obtain ⟨piece, more, h⟩ := List.exists_cons_of_ne_nil (cutAt_ne_nil mark rest)
  rw [List.nil_append, h]
  rfl

theorem append {stretch' : List Char} (h : Passes mark stretch) (h' : Passes mark stretch') :
    Passes mark (stretch ++ stretch') := by
  intro rest
  rw [List.append_assoc, h, h']
  obtain ⟨piece, more, heq⟩ := List.exists_cons_of_ne_nil (cutAt_ne_nil mark rest)
  simp [heq]

/-- A stretch in front of a mark is a piece. -/
theorem cutAt_append (h : Passes mark stretch) (hne : mark ≠ []) (rest : List Char) :
    cutAt mark (stretch ++ (mark ++ rest)) = stretch :: cutAt mark rest := by
  rw [h, cutAt_mark hne]
  simp

theorem cutAt_eq (h : Passes mark stretch) : cutAt mark stretch = [stretch] := by
  have := h []
  rw [List.append_nil] at this
  simpa [cutAt, cutAt.go] using this

/-- No tag begins in a text without its first character. -/
theorem of_notMem (h : '<' ∉ stretch) : Passes ('<' :: mark) stretch := by
  induction stretch with
  | nil => exact nil
  | cons c stretch ih =>
    obtain ⟨hc, hstretch⟩ := List.ne_and_not_mem_of_not_mem_cons h
    intro rest
    have other : ('<' :: mark).isPrefixOf (c :: (stretch ++ rest)) = false := by
      simp [List.isPrefixOf, hc]
    obtain ⟨piece, more, heq⟩ := List.exists_cons_of_ne_nil (cutAt_ne_nil ('<' :: mark) rest)
    rw [List.cons_append, cutAt_cons other, ih hstretch, heq]
    rfl

/-- Another tag passes. -/
theorem of_tag (tag : List Char) (h : '<' ∉ tag) (left : ¬mark <+: tag)
    (right : ¬tag <+: mark) : Passes ('<' :: mark) ('<' :: tag) := by
  intro rest
  have other : ('<' :: mark).isPrefixOf ('<' :: (tag ++ rest)) = false := by
    rw [Bool.eq_false_iff, Ne, List.isPrefixOf_iff_prefix, List.cons_prefix_cons]
    rintro ⟨-, hprefix⟩
    -- a mark that began here would start like the tag, up to the shorter one of them
    exact (List.prefix_or_prefix_of_prefix hprefix (List.prefix_append tag rest)).elim left right
  obtain ⟨piece, more, heq⟩ := List.exists_cons_of_ne_nil (cutAt_ne_nil ('<' :: mark) rest)
  rw [List.cons_append, cutAt_cons other, of_notMem h, heq]
  rfl

end Passes

end Marks

/-! ## Cells and lines -/

/-- The content of the cell that ends a piece of a table. -/
def cellContent (piece : List Char) : List Char :=
  (((fromFirst? "<td".toList piece).getD []).dropWhile (· != '>')).drop 1

/-- The contents of the cells of a table. -/
def cellsOf (table : List Char) : List (List Char) :=
  (cutAt "</td>".toList table).dropLast.map cellContent

/-- The lines of a cell; a line break at its end begins no line. -/
def linesOf (cell : List Char) : List (List Char) :=
  let pieces := cutAt "<br/>".toList cell
  if pieces.getLast? = some [] then pieces.dropLast else pieces

/-- What the lines of each cell of a label show. -/
def readLabel (label : String) : List (List String) :=
  (cellsOf label.toList).map fun cell =>
    (linesOf cell).map fun line => String.ofList (labelShown line)

section Cells

variable {before rest : List Char} {attributes content : String}

/-- The first cell of a table is that of its first row, and the end of that row is passed over. -/
theorem cellsOf_labelCell (passes : Passes "</td>".toList (before ++ "<tr>".toList))
    (skips : ∀ cs, fromFirst? "<td".toList (before ++ "<tr>".toList ++ cs) =
      fromFirst? "<td".toList cs)
    (opening : '<' ∉ attributes.toList) (closing : '>' ∉ attributes.toList)
    (inside : Passes "</td>".toList content.toList) :
    cellsOf (before ++ ((labelCell attributes content).toList ++ rest)) =
      content.toList :: cellsOf ("</tr>".toList ++ rest) := by
  let tag := "<td ".toList ++ attributes.toList
  have text : before ++ ((labelCell attributes content).toList ++ rest) =
      (before ++ "<tr>".toList ++ (tag ++ '>' :: content.toList)) ++
        ("</td>".toList ++ ("</tr>".toList ++ rest)) := by
    simp [labelCell, tag]
  have passesTag : Passes "</td>".toList (tag ++ ['>']) := by
    have other : ('/' : Char) ≠ 't' := by decide
    refine .of_tag ("td ".toList ++ attributes.toList ++ ['>']) (by simp [opening]) ?_ ?_
    · exact fun h => other (List.cons_prefix_cons.1 h).1
    · exact fun h => other (List.cons_prefix_cons.1 h).1.symm
  have passesCell : Passes "</td>".toList
      (before ++ "<tr>".toList ++ (tag ++ '>' :: content.toList)) := by
    have cell : tag ++ '>' :: content.toList = tag ++ ['>'] ++ content.toList := by simp
    rw [cell]
    exact passes.append (passesTag.append inside)
  have found : fromFirst? "<td".toList (tag ++ '>' :: content.toList) =
      some (tag ++ '>' :: content.toList) := rfl
  have insideTag : ∀ c ∈ tag, (c != '>') = true := by
    intro c hc
    rw [bne_iff_ne]
    rintro rfl
    rcases List.mem_append.1 hc with inWord | inAttributes
    · exact absurd inWord (by decide)
    · exact closing inAttributes
  -- the content of the cell is what stands behind the tag that opens it
  have own : cellContent (before ++ "<tr>".toList ++ (tag ++ '>' :: content.toList)) =
      content.toList := by
    rw [cellContent, skips, found, Option.getD_some, List.dropWhile_append_of_pos insideTag]
    rfl
  rw [cellsOf, text, passesCell.cutAt_append (by decide),
    List.dropLast_cons_of_ne_nil (cutAt_ne_nil _ _), List.map_cons, own]
  rfl

theorem passes_tr : Passes "</td>".toList "<tr>".toList :=
  .of_tag "tr>".toList (by decide) (by decide) (by decide)

theorem cellsOf_table (opening : '<' ∉ attributes.toList) (closing : '>' ∉ attributes.toList)
    (inside : Passes "</td>".toList content.toList) :
    cellsOf ("<table border=\"0\" cellborder=\"1\" cellspacing=\"0\">".toList ++
        ((labelCell attributes content).toList ++ rest)) =
      content.toList :: cellsOf ("</tr>".toList ++ rest) := by
  have passes : Passes "</td>".toList
      "<table border=\"0\" cellborder=\"1\" cellspacing=\"0\">".toList :=
    .of_tag "table border=\"0\" cellborder=\"1\" cellspacing=\"0\">".toList
      (by decide) (by decide) (by decide)
  exact cellsOf_labelCell (passes.append passes_tr) (fun _ => rfl) opening closing inside

theorem cellsOf_row (opening : '<' ∉ attributes.toList) (closing : '>' ∉ attributes.toList)
    (inside : Passes "</td>".toList content.toList) :
    cellsOf ("</tr>".toList ++ ((labelCell attributes content).toList ++ rest)) =
      content.toList :: cellsOf ("</tr>".toList ++ rest) := by
  have passes : Passes "</td>".toList "</tr>".toList :=
    .of_tag "/tr>".toList (by decide) (by decide) (by decide)
  exact cellsOf_labelCell (passes.append passes_tr) (fun _ => rfl) opening closing inside

/-- A text without a tag is one line. -/
theorem linesOf_of_notMem {cs : List Char} (h : '<' ∉ cs) (hne : cs ≠ []) : linesOf cs = [cs] := by
  have pieces : cutAt "<br/>".toList cs = [cs] := (Passes.of_notMem h).cutAt_eq
  rw [linesOf, pieces]
  simp [hne]

/-- Texts with a line break after each are the lines of a cell. -/
theorem linesOf_flatMap {lines : List (List Char)} (h : ∀ cs ∈ lines, '<' ∉ cs) :
    linesOf (lines.flatMap (· ++ "<br/>".toList)) = lines := by
  have pieces : cutAt "<br/>".toList (lines.flatMap (· ++ "<br/>".toList)) = lines ++ [[]] := by
    induction lines with
    | nil => rfl
    | cons cs lines ih =>
      have first : Passes "<br/>".toList cs := .of_notMem (h cs List.mem_cons_self)
      rw [List.flatMap_cons, List.append_assoc, first.cutAt_append (by decide),
        ih fun ds hds => h ds (List.mem_cons_of_mem _ hds), List.cons_append]
  rw [linesOf, pieces]
  simp

theorem passes_flatMap {lines : List (List Char)} (h : ∀ cs ∈ lines, '<' ∉ cs) :
    Passes "</td>".toList (lines.flatMap (· ++ "<br/>".toList)) := by
  induction lines with
  | nil => exact .nil
  | cons cs lines ih =>
    have first : Passes "</td>".toList cs := .of_notMem (h cs List.mem_cons_self)
    have lineBreak : Passes "</td>".toList "<br/>".toList :=
      .of_tag "br/>".toList (by decide) (by decide) (by decide)
    exact (first.append lineBreak).append (ih fun ds hds => h ds (List.mem_cons_of_mem _ hds))

end Cells

/-! ## The label of a block -/

/-- Statements that look the same in a label: they are hidden alike, and those that are not hidden
have the same text. -/
def Statement.LooksLike (s t : Statement) : Prop :=
  s.hidden = t.hidden ∧ (s.hidden = false → s.text = t.text)

theorem Statement.LooksLike.labelLine_eq {s t : Statement} (h : s.LooksLike t) (marked : Bool) :
    s.labelLine marked = t.labelLine marked := by
  obtain ⟨hidden, text⟩ := h
  cases hs : s.hidden with
  | true => simp [labelLine, ← hidden, hs]
  | false => simp [labelLine, ← hidden, hs, text hs]

theorem statementLines_congr {ss ts : List Statement} (h : List.Forall₂ Statement.LooksLike ss ts)
    (breakpoints : Breakpoints) (block i : Nat) :
    statementLines breakpoints block i ss = statementLines breakpoints block i ts := by
  induction h generalizing i with
  | nil => rfl
  | cons first _ ih => rw [statementLines, statementLines, first.labelLine_eq, ih]

/-- What a label shows of the statements of a block, line by line. -/
def shownLines (breakpoints : Breakpoints) (block : Nat) (ss : List Statement) : List String :=
  ss.zipIdx.map fun p => p.1.shownLine (breakpoints.contains ⟨block, p.2⟩)

theorem map_labelShown_statementStarts (breakpoints : Breakpoints) (block : Nat)
    (ss : List Statement) :
    (statementStarts breakpoints block ss).map (fun line => String.ofList (labelShown line)) =
      shownLines breakpoints block ss := by
  rw [statementStarts, shownLines, List.map_map]
  refine List.map_congr_left fun p _ => ?_
  exact NodePart.text.inj (p.1.linePart_lineStart _)

theorem Body.passes_nodeName (b : Body) (k : Nat) :
    Passes "</td>".toList (b.nodeName k).toList :=
  .of_notMem (Body.notMem_nodeName rfl k)

/-- The cells of the label of a block are those of its node's name, of its statements if there are
any, and of its ending. -/
theorem cellsOf_label {block : Block} {label head : String} {b : Body} {k : Nat}
    {breakpoints : Breakpoints} (hhead : block.terminator.ending.head = .ok head)
    (hlabel : block.label (b.nodeName k) k breakpoints = .ok label) :
    cellsOf label.toList = (b.nodeName k).toList ::
      ((if block.statements = [] then []
        else [(String.join (statementLines breakpoints k 0 block.statements)).toList]) ++
      [(Html.escape head).toList]) := by
  obtain rfl := Except.ok.inj ((Block.label_eq hhead _ k breakpoints).symm.trans hlabel)
  have passesHead : Passes "</td>".toList (Html.escape head).toList :=
    .of_notMem (notMem_escape head).1
  have passesLines : Passes "</td>".toList
      (String.join (statementLines breakpoints k 0 block.statements)).toList := by
    rw [toList_join_statementLines]
    exact passes_flatMap notMem_of_mem_statementStarts
  have foot : cellsOf ("</tr>".toList ++ ((labelCell "align=\"left\"" (Html.escape head)).toList ++
      "</table>".toList)) = [(Html.escape head).toList] :=
    cellsOf_row (by decide) (by decide) passesHead
  rw [String.toList_append, String.toList_append, String.toList_append, String.toList_append,
    List.append_assoc, List.append_assoc, List.append_assoc,
    cellsOf_table (by decide) (by decide) (b.passes_nodeName k)]
  cases hss : block.statements with
  | nil =>
    rw [List.isEmpty_nil, if_pos rfl, if_pos rfl, String.toList_empty, List.nil_append, foot,
      List.nil_append]
  | cons s ss =>
    rw [hss] at passesLines
    rw [List.isEmpty_cons, if_neg Bool.false_ne_true, if_neg (List.cons_ne_nil s ss),
      cellsOf_row (by decide) (by decide) passesLines, foot]
    rfl

theorem Statement.prefix_shownLine_iff (s : Statement) (marked : Bool) :
    "+ ".toList <+: (s.shownLine marked).toList ↔ marked = true := by
  rw [← List.isPrefixOf_iff_prefix]
  exact iff_of_eq (congrArg (· = true) (s.isMarked_shownLine marked))

/-- The label of a block shows the name of its node, each of its statements in a line of its own if
it has any, and the head of its ending. A line is marked if there is a breakpoint at the place of
the statement, and the texts of hidden statements make no difference. -/
theorem Block.readLabel_label {block : Block} (concrete : block.terminator.ending ≠ .unspecified)
    (b : Body) (k : Nat) (breakpoints : Breakpoints) :
    ∃ label head : String, block.label (b.nodeName k) k breakpoints = .ok label ∧
      block.terminator.ending.head = .ok head ∧
      readLabel label = [b.nodeName k] ::
        ((if block.statements = [] then []
          else [shownLines breakpoints k block.statements]) ++ [[head]]) ∧
      (∀ (i : Nat) (s : Statement), block.statements[i]? = some s →
        ∃ line, (shownLines breakpoints k block.statements)[i]? = some line ∧
          line = (if ⟨k, i⟩ ∈ breakpoints.places then "+ " else "\u00a0 ") ++
            (if s.hidden then "<+>" else s.text) ∧
          ("+ ".toList <+: line.toList ↔ ⟨k, i⟩ ∈ breakpoints.places)) ∧
      ∀ other : Block, List.Forall₂ Statement.LooksLike block.statements other.statements →
        other.terminator.ending = block.terminator.ending →
        other.label (b.nodeName k) k breakpoints = .ok label := by
  obtain ⟨head, hhead⟩ := Ending.exists_head concrete
  obtain ⟨label, hlabel, -⟩ := nodeParts_label hhead b k breakpoints
  refine ⟨label, head, hlabel, hhead, ?cells, ?lines, ?hidden⟩
  case cells =>
    have name := NodePart.text.inj (b.linePart_nodeName k)
    have ending := NodePart.text.inj (linePart_escape head)
    rw [readLabel, cellsOf_label hhead hlabel, List.map_cons, List.map_append, List.map_singleton,
      linesOf_of_notMem (Body.notMem_nodeName rfl k) (b.nodeName_ne_nil k),
      linesOf_of_notMem (notMem_escape head).1 (Ending.escape_head_ne_nil hhead),
      List.map_singleton, List.map_singleton, name, ending]
    split
    · rfl
    · rw [List.map_singleton, toList_join_statementLines,
        linesOf_flatMap notMem_of_mem_statementStarts, map_labelShown_statementStarts]
  case lines =>
    intro i s hs
    have marked : breakpoints.contains ⟨k, i⟩ = true ↔ ⟨k, i⟩ ∈ breakpoints.places :=
      List.contains_iff_mem
    refine ⟨s.shownLine (breakpoints.contains ⟨k, i⟩), ?_, ?_, ?_⟩
    · simp [shownLines, hs]
    · rw [Statement.shownLine, Statement.shownText, if_congr marked rfl rfl]
    · rw [s.prefix_shownLine_iff, marked]
  case hidden =>
    intro other alike ending
    have same : other.statements.isEmpty = block.statements.isEmpty := by
      rw [Bool.eq_iff_iff, List.isEmpty_iff_length_eq_zero, List.isEmpty_iff_length_eq_zero,
        alike.length_eq]
    rw [← hlabel, Block.label_eq hhead, Block.label_eq (ending ▸ hhead), same,
      statementLines_congr alike]

/-- The text of the hidden statement of `breakingBlock` is replaced by another one. -/
theorem Block.readLabel_label_breakingBlock :
    breakingBlock.terminator.ending ≠ .unspecified ∧
      ∃ label : String, breakingBlock.label "bb3" 3 ⟨[⟨3, 0⟩]⟩ = .ok label ∧
        readLabel label =
          [["bb3"], ["+ <br/>&nbsp;</td>", "\u00a0 <+>"], ["switchInt(a < b)"]] ∧
        Block.label { breakingBlock with
          statements := [⟨"<br/>&nbsp;</td>", .ofRegion ⟨"main.rs", 0, 5⟩, false⟩,
            ⟨"+ <br/>", .ofRegion ⟨"main.rs", 5, 9⟩, true⟩] } "bb3" 3 ⟨[⟨3, 0⟩]⟩ = .ok label := by
  have concrete : breakingBlock.terminator.ending ≠ .unspecified := by decide
  obtain ⟨label, head, hlabel, hhead, cells, -, hidden⟩ :=
    readLabel_label concrete ⟨[], .ofRegion ⟨"main.rs", 0, 10⟩, "", none⟩ 3 ⟨[⟨3, 0⟩]⟩
  cases hhead
  refine ⟨concrete, label, hlabel, cells, hidden _ ?_ rfl⟩
  exact .cons ⟨rfl, fun _ => rfl⟩ (.cons ⟨rfl, nofun⟩ .nil)

end TraceLens
