import Mathlib.Data.List.Basic
import TraceLens.Proofs.Highlight.Painting

/-!
# Highlighted lines

A list is cut after each item of a kind when its runs are not empty, hold such an item at their end
only, and all but the last one do end with it. There is one such cut. The lines of a highlighted
text are cut after the fragments that end a line, so their texts are cut after each LF.

Main statements: `CutAfter.unique`, `Fragment.cutAfter_chars` and `exists_linesOf`.
-/

namespace TraceLens

/-! ## Cuts -/

/-- The runs of a list that is cut after each item of a kind. -/
structure CutAfter {α : Type} (ends : α → Prop) (xs : List α) (runs : List (List α)) : Prop where
  flatten : runs.flatten = xs
  /-- A run has some item, and one of the kind only at its end. -/
  run : ∀ run ∈ runs, run ≠ [] ∧ ∀ x ∈ run.dropLast, ¬ends x
  /-- Every run but the last one ends with an item of the kind. -/
  ended : ∀ run ∈ runs.dropLast, ∃ x ∈ run.getLast?, ends x

namespace CutAfter

variable {α : Type} {ends : α → Prop} {xs : List α} {x : α} {run : List α} {runs : List (List α)}

theorem nil : CutAfter ends [] [] := ⟨rfl, by simp, by simp⟩

theorem singleton (x : α) : CutAfter ends [x] [[x]] := ⟨rfl, by simp, by simp⟩

theorem cons_end (hx : ends x) (h : CutAfter ends xs runs) :
    CutAfter ends (x :: xs) ([x] :: runs) where
  flatten := by simp [h.flatten]
  run := List.forall_mem_cons.2 ⟨by simp, h.run⟩
  ended := by
    cases runs with
    | nil => simp
    | cons run runs =>
      rw [List.dropLast_cons_cons]
      exact List.forall_mem_cons.2 ⟨⟨x, rfl, hx⟩, h.ended⟩

theorem cons_run (hx : ¬ends x) (h : CutAfter ends xs (run :: runs)) :
    CutAfter ends (x :: xs) ((x :: run) :: runs) where
  flatten := by simpa using h.flatten
  run := by
    obtain ⟨⟨hne, plain⟩, others⟩ := List.forall_mem_cons.1 h.run
    refine List.forall_mem_cons.2 ⟨⟨List.cons_ne_nil x run, ?_⟩, others⟩
    rw [List.dropLast_cons_of_ne_nil hne]
    exact List.forall_mem_cons.2 ⟨hx, plain⟩
  ended := by
    have hne := (h.run run List.mem_cons_self).1
    cases runs with
    | nil => simp
    | cons next runs =>
      have ended := h.ended
      rw [List.dropLast_cons_cons] at ended ⊢
      obtain ⟨first, others⟩ := List.forall_mem_cons.1 ended
      refine List.forall_mem_cons.2 ⟨?_, others⟩
      obtain ⟨y, ys, rfl⟩ := List.exists_cons_of_ne_nil hne
      rwa [List.getLast?_cons_cons]

/-- Of two cuts of a list, the first run of one does not go on after that of the other. -/
theorem not_longer {run' : List α} {runs' : List (List α)} (h : CutAfter ends xs (run :: runs))
    (h' : CutAfter ends xs (run' :: runs')) (more : List α) (hmore : run' = run ++ more) :
    more = [] := by
  by_contra hne
  have rest : runs ≠ [] := by
    rintro rfl
    have := congrArg List.length (h.flatten.trans h'.flatten.symm)
    have := List.length_pos_iff.2 hne
    simp only [List.flatten_cons, hmore, List.flatten_nil, List.append_nil, List.length_append] at *
    omega
  obtain ⟨next, others, rfl⟩ := List.exists_cons_of_ne_nil rest
  obtain ⟨x, hx, last⟩ := h.ended run (by simp)
  refine (h'.run run' List.mem_cons_self).2 x ?_ last
  rw [hmore, List.dropLast_append_of_ne_nil hne]
  exact List.mem_append_left _ (List.mem_of_getLast? hx)

theorem tail (h : CutAfter ends xs (run :: runs)) : CutAfter ends runs.flatten runs where
  flatten := rfl
  run := (List.forall_mem_cons.1 h.run).2
  ended := by
    cases runs with
    | nil => simp
    | cons next runs =>
      have ended := h.ended
      rw [List.dropLast_cons_cons] at ended
      exact (List.forall_mem_cons.1 ended).2

/-- There are no runs just in an empty list. -/
theorem eq_nil_iff (h : CutAfter ends xs runs) : runs = [] ↔ xs = [] := by
  rw [← h.flatten]
  constructor
  · rintro rfl
    rfl
  · intro hnil
    refine List.eq_nil_iff_forall_not_mem.2 fun run hrun => (h.run run hrun).1 ?_
    exact List.flatten_eq_nil_iff.1 hnil run hrun

/-- A list is cut in one way only. -/
theorem unique {runs' : List (List α)} (h : CutAfter ends xs runs) (h' : CutAfter ends xs runs') :
    runs = runs' := by
  induction runs generalizing xs runs' with
  | nil => exact (h'.eq_nil_iff.2 (h.eq_nil_iff.1 rfl)).symm
  | cons run runs ih =>
    cases runs' with
    | nil => exact h.eq_nil_iff.2 (h'.eq_nil_iff.1 rfl)
    | cons run' runs' =>
      have heq : run ++ runs.flatten = run' ++ runs'.flatten := h.flatten.trans h'.flatten.symm
      have first : run = run' := by
        rcases List.append_eq_append_iff.1 heq with ⟨more, hmore, -⟩ | ⟨more, hmore, -⟩
        · rw [hmore, h.not_longer h' more hmore, List.append_nil]
        · rw [hmore, h'.not_longer h more hmore, List.append_nil]
      subst first
      rw [ih h.tail (List.append_cancel_left heq ▸ h'.tail)]

end CutAfter

/-! ## Lines -/

namespace Fragment

theorem cutAfter_cutAfterNewlines (cs : List Char) :
    CutAfter (· = '\n') cs (cutAfterNewlines cs) := by
  fun_induction cutAfterNewlines cs with
  | case1 => exact .nil
  | case2 cs ih => exact ih.cons_end rfl
  | case3 c cs hc hnil ih =>
    obtain rfl := ih.eq_nil_iff.1 hnil
    exact .singleton c
  | case4 c cs hc piece more heq ih =>
    rw [heq] at ih
    exact ih.cons_run hc

theorem cutAfter_collectLines (fs : List Fragment) :
    CutAfter (fun f => f.endsLine = true) fs (collectLines fs) := by
  fun_induction collectLines fs with
  | case1 => exact .nil
  | case2 f fs hf ih => exact ih.cons_end hf
  | case3 f fs hf hnil ih =>
    obtain rfl := ih.eq_nil_iff.1 hnil
    exact .singleton f
  | case4 f fs hf line more heq ih =>
    rw [heq] at ih
    exact ih.cons_run hf

/-- A fragment that holds some character, and an LF only at its end. -/
def IsPiece (f : Fragment) : Prop := f.text.toList ≠ [] ∧ '\n' ∉ f.text.toList.dropLast

theorem isPiece_of_mem_pieces {f piece : Fragment} (h : piece ∈ f.pieces) : piece.IsPiece := by
  obtain ⟨cs, hcs, rfl⟩ := List.mem_map.1 h
  obtain ⟨hne, plain⟩ := (cutAfter_cutAfterNewlines f.text.toList).run cs hcs
  rw [IsPiece, String.toList_ofList]
  exact ⟨hne, fun hmem => plain _ hmem rfl⟩

/-- A line whose fragments are pieces is its last fragment and, before that, characters without an
LF. -/
theorem exists_chars_of_line {fs line : List Fragment} {lines : List (List Fragment)}
    (h : CutAfter (fun f => f.endsLine = true) fs lines) (pieces : ∀ f ∈ fs, f.IsPiece)
    (hline : line ∈ lines) :
    ∃ f ∈ line.getLast?, ∃ before, (line.flatMap fun f => f.text.toList) = before ++ f.text.toList ∧
      '\n' ∉ before ∧ f.IsPiece := by
  have piece {f : Fragment} (hf : f ∈ line) : f.IsPiece :=
    pieces f (h.flatten ▸ List.mem_flatten_of_mem hline hf)
  obtain ⟨hne, plain⟩ := h.run line hline
  have hf := List.getLast?_eq_some_getLast hne
  generalize line.getLast hne = f at hf
  have parts := List.dropLast_append_getLast? f hf
  refine ⟨f, hf, line.dropLast.flatMap fun f => f.text.toList, ?_, fun hmem => ?_,
    piece (List.mem_of_getLast? hf)⟩
  · conv_lhs => rw [← parts]
    simp
  · obtain ⟨g, hg, hmem⟩ := List.mem_flatMap.1 hmem
    -- an LF in a piece is its end, which only the last fragment of a line may have
    obtain ⟨hne, inner⟩ := piece (List.dropLast_subset line hg)
    refine plain g hg ?_
    have hc := List.getLast?_eq_some_getLast hne
    generalize g.text.toList.getLast hne = c at hc
    rw [← List.dropLast_append_getLast? c hc, List.mem_append] at hmem
    obtain rfl : '\n' = c := by simpa [inner] using hmem
    simp [endsLine, hc]

/-- Where each fragment is a piece of a line, cutting after those that end a line cuts their
characters after each LF. -/
theorem cutAfter_chars {fs : List Fragment} {lines : List (List Fragment)}
    (h : CutAfter (fun f => f.endsLine = true) fs lines) (pieces : ∀ f ∈ fs, f.IsPiece) :
    CutAfter (· = '\n') (fs.flatMap fun f => f.text.toList)
      (lines.map fun line => line.flatMap fun f => f.text.toList) where
  flatten := by
    rw [← h.flatten, List.flatten_eq_flatMap (L := lines), List.flatMap_assoc, List.flatMap_def]
    rfl
  run := by
    refine List.forall_mem_map.2 fun line hline => ?_
    obtain ⟨f, -, before, heq, plain, hne, inner⟩ := exists_chars_of_line h pieces hline
    rw [heq, List.dropLast_append_of_ne_nil hne]
    refine ⟨List.append_ne_nil_of_right_ne_nil before hne, ?_⟩
    rintro c hc rfl
    exact (List.mem_append.1 hc).elim plain inner
  ended := by
    rw [← List.map_dropLast]
    refine List.forall_mem_map.2 fun line hline => ?_
    obtain ⟨f, hf, before, heq, -, hne, -⟩ :=
      exists_chars_of_line h pieces (List.dropLast_subset lines hline)
    obtain ⟨g, hg, hends⟩ := h.ended line hline
    obtain rfl : f = g := Option.some_inj.1 (hf.symm.trans hg)
    rw [heq, List.getLast?_append_of_ne_nil before hne]
    exact ⟨'\n', by simpa [endsLine] using hends, rfl⟩

/-- Lines that show a text, cut after each LF, in the styles of some fragments. -/
structure LinesOf (text : String) (fs : List Fragment) (lines : List (List Fragment)) : Prop where
  /-- The texts of the lines are the cut of the text after each LF. -/
  cut (runs : List (List Char)) : CutAfter (· = '\n') text.toList runs ↔
    lines.map (fun line => (textOf line).toList) = runs
  /-- An empty text has no line. -/
  none : lines = [] ↔ text = ""
  filled : ∀ line ∈ lines, ∀ f ∈ line, f.text ≠ ""
  styled : styledChars lines.flatten = styledChars fs

end Fragment

/-- Highlighting a text gives its lines, cut after each LF, and every character keeps the style that
the tokens give to it. -/
theorem exists_linesOf (scan : Scanner) {styles : StyleTable} {text : String}
    (known : ∀ t ∈ scan text, (styles.style? t.kind).isSome) :
    ∃ fs lines, Fragment.ofTokens styles text (scan text) = .ok fs ∧
      highlightLines scan styles text = .ok lines ∧ Fragment.LinesOf text fs lines := by
  obtain ⟨fs, hfs, hpainted⟩ := Fragment.exists_styledChars_ofTokens known
  have pieces : ∀ piece ∈ fs.flatMap Fragment.pieces, piece.IsPiece := by
    intro piece hpiece
    obtain ⟨f, -, hmem⟩ := List.mem_flatMap.1 hpiece
    exact Fragment.isPiece_of_mem_pieces hmem
  have collected := Fragment.cutAfter_collectLines (fs.flatMap Fragment.pieces)
  have styled := Fragment.styledChars_flatten_toLines fs
  have chars : ((fs.flatMap Fragment.pieces).flatMap fun f => f.text.toList) = text.toList := by
    calc ((fs.flatMap Fragment.pieces).flatMap fun f => f.text.toList)
        = (Fragment.styledChars (fs.flatMap Fragment.pieces)).map Prod.snd := by
          simp [Fragment.styledChars, List.map_flatMap, Function.comp_def]
      _ = (Fragment.styledChars fs).map Prod.snd := by rw [← Fragment.flatten_toLines, styled]
      _ = text.toList := by rw [hpainted, map_snd_painted]
  have cut : CutAfter (· = '\n') text.toList
      ((Fragment.toLines fs).map fun line => (Fragment.textOf line).toList) := by
    have cut := Fragment.cutAfter_chars collected pieces
    rw [chars] at cut
    simpa only [Fragment.toLines, Fragment.textOf, String.toList_join, List.flatMap_map] using cut
  refine ⟨fs, Fragment.toLines fs, hfs, by rw [highlightLines, hfs]; rfl, ?_⟩
  constructor
  · intro runs
    exact ⟨cut.unique, fun h => h ▸ cut⟩
  · rw [← List.map_eq_nil_iff, cut.eq_nil_iff, String.toList_eq_nil_iff]
  · intro line hline f hf
    have : f ∈ fs.flatMap Fragment.pieces := by
      rw [← Fragment.flatten_toLines]
      exact List.mem_flatten_of_mem hline hf
    exact mt String.toList_eq_nil_iff.2 (pieces f this).1
  · exact styled

/-- A style for texts in quotes and for nothing else. -/
def quoteStyles : StyleTable where
  background := none
  default := {}
  style? := fun kind => if kind = "Literal.String.Doc" then some { italic := true } else none

/-- A text in quotes over three lines, one of them empty, and a token that goes back into it. -/
def quoteTokens : List Token := [⟨4, "Literal.String.Doc", 10⟩, ⟨2, "Literal.String.Doc", 9⟩]

theorem exists_linesOf_quoteTokens :
    (∀ t ∈ quoteTokens, (quoteStyles.style? t.kind).isSome) ∧
      ∃ fs lines, Fragment.ofTokens quoteStyles "s = \"\"\"a\n\nb\"\"\"; t" quoteTokens = .ok fs ∧
        highlightLines (fun _ => quoteTokens) quoteStyles "s = \"\"\"a\n\nb\"\"\"; t" = .ok lines ∧
        Fragment.LinesOf "s = \"\"\"a\n\nb\"\"\"; t" fs lines ∧
        lines.map (fun line => (Fragment.textOf line).toList) =
          ["s = \"\"\"a\n".toList, "\n".toList, "b\"\"\"; t".toList] := by
  have known : ∀ t ∈ quoteTokens, (quoteStyles.style? t.kind).isSome := by decide
  obtain ⟨fs, lines, hfs, hlines, shows⟩ := exists_linesOf (fun _ => quoteTokens) known
  have cut : CutAfter (· = '\n') "s = \"\"\"a\n\nb\"\"\"; t".toList
      ["s = \"\"\"a\n".toList, "\n".toList, "b\"\"\"; t".toList] := by
    constructor <;> simp
  exact ⟨known, fs, lines, hfs, hlines, shows, (shows.cut _).1 cut⟩

end TraceLens
