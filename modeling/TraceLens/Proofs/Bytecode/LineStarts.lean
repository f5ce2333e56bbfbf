import TraceLens.Proofs.Bytecode.Keeping
import TraceLens.Proofs.Table

/-!
# Where lines start

A line of a source starts at the place of the first visible instruction that belongs to it, whether
that instruction became a statement or ended its block.

Main statement: `find?_lineStarts` reads a graph's table of lines off the instructions of its code;
`mem_breakpointsForLines` says which places the breakpoints on a list of lines have.
-/

namespace TraceLens

namespace Bytecode

/-- The first visible instruction of a line. -/
def Code.firstOn? (code : Code) (line : Int) : Option Instruction :=
  code.instructions.find? fun i => !i.isHidden && i.line? = some line

variable {code : Code}

/-- A code block holds each instruction of its run. -/
theorem Code.map_fst_placed {origin : Origin} {leaders : List Int} {n : Nat}
    {group : List Instruction} {b : CodeBlock}
    (h : code.codeBlock leaders origin n group = .ok b) : b.placed.map Prod.fst = group := by
  unfold codeBlock at h
  cases hlast : group.getLast? with
  | none => simp [hlast] at h
  | some last =>
    simp only [hlast, bind_eq_ok_iff, pure_eq_ok_iff] at h
    obtain ⟨span, -, statements, -, rfl⟩ := h
    rw [List.map_map]
    exact List.zipIdx_map_fst 0 group

/-- The first line start among placed instructions is that of the first visible instruction of the
line, at the place that its offset has. -/
theorem look_lineStarts {locations : Table Int Location} {placed : List (Instruction × Location)}
    (h : ∀ p ∈ placed, (locations.find? p.1.offset).isSome) (line : Int) :
    Table.look (placed.filterMap fun p => if p.1.isHidden then none
        else p.1.line?.map fun line => (line, (locations.find? p.1.offset).getD p.2)) line =
      ((placed.map Prod.fst).find? fun i => !i.isHidden && i.line? = some line).bind
        fun i => locations.find? i.offset := by
  induction placed with
  | nil => rfl
  | cons p placed ih =>
    have rest := ih fun q hq => h q (List.mem_cons_of_mem _ hq)
    obtain ⟨l, hl⟩ := Option.isSome_iff_exists.1 (h p List.mem_cons_self)
    rw [List.filterMap_cons, List.map_cons, List.find?_cons]
    by_cases hidden : p.1.isHidden
    · simpa [hidden] using rest
    · cases hline : p.1.line? with
      | none => simpa [hidden, hline] using rest
      | some other =>
        by_cases heq : other = line
        · subst heq
          simp [hidden, hl, Table.look]
        · simpa [hidden, hline, heq, Table.look] using rest

/-- A line starts where its first visible instruction stands. -/
theorem CodeGraph.find?_lineStarts (h : code.Regular) {source file : String} {g : CodeGraph}
    (hg : codeGraph code source file = .ok g) (line : Int) :
    g.lineStarts.find? line = (code.firstOn? line).bind fun i => g.locations.find? i.offset := by
  obtain ⟨origin, -, hs⟩ := shows_of_codeGraph h hg
  simp only [codeGraph, bind_eq_ok_iff] at hg
  obtain ⟨origin', -, hg⟩ := hg
  rw [if_neg (by simpa using h.nonempty)] at hg
  obtain ⟨blocks, hblocks, hg⟩ := bind_eq_ok_iff.1 hg
  obtain rfl := pure_eq_ok_iff.1 hg
  let placed := blocks.flatMap CodeBlock.placed
  have all : placed.map Prod.fst = code.instructions := by
    have made : List.Forall₂ (fun p b => b.placed.map Prod.fst = p.1) code.groups.zipIdx blocks :=
      (mapM_eq_ok_iff.1 hblocks).imp fun _ _ hb => Code.map_fst_placed hb
    have runs : blocks.map (fun b => b.placed.map Prod.fst) = code.groups := by
      rw [← List.zipIdx_map_fst 0 code.groups, ← List.forall₂_eq_eq_eq,
        List.forall₂_map_left_iff, List.forall₂_map_right_iff]
      exact made.flip
    calc placed.map Prod.fst
        = (blocks.map fun b => b.placed.map Prod.fst).flatten := by
          rw [List.map_flatMap, List.flatMap_def]
      _ = code.instructions := by rw [runs, Code.flatten_groups h]
  have known : ∀ p ∈ placed, ((code.graphOf origin' source.length blocks).locations.find?
      p.1.offset).isSome := by
    intro p hp
    have hi : p.1 ∈ code.instructions := all ▸ List.mem_map_of_mem hp
    obtain ⟨l, hl⟩ := Code.exists_placedAt h hi
    exact Option.isSome_iff_exists.2 ⟨l, (hs.find?_eq_some_iff h).2 ⟨p.1, hl, rfl⟩⟩
  have starts := look_lineStarts known line
  rw [all] at starts
  rw [Code.firstOn?, ← starts]
  refine (Table.find?_foldl_insertNew _ {} line).trans ?_
  rw [List.filterMap_flatMap]
  rfl

theorem CodeGraph.find?_lineStarts_eq_some_iff (h : code.Regular) {source file : String}
    {g : CodeGraph} (hg : codeGraph code source file = .ok g) {line : Int} {l : Location} :
    g.lineStarts.find? line = some l ↔
      ∃ i, code.firstOn? line = some i ∧ code.PlacedAt i l := by
  obtain ⟨origin, -, hs⟩ := shows_of_codeGraph h hg
  rw [CodeGraph.find?_lineStarts h hg, Option.bind_eq_some_iff]
  refine exists_congr fun i => and_congr_right fun hi => ?_
  exact hs.find?_offset_eq_some_iff h.ascending (List.mem_of_find?_eq_some hi)

/-- The breakpoints on a list of lines are where the lines start. -/
theorem CodeGraph.mem_breakpointsForLines (h : code.Regular) {source file : String} {g : CodeGraph}
    (hg : codeGraph code source file = .ok g) {lines : List Int} {l : Location} :
    l ∈ (g.breakpointsForLines lines).places ↔
      ∃ line ∈ lines, ∃ i, code.firstOn? line = some i ∧ code.PlacedAt i l := by
  simp only [breakpointsForLines, Breakpoints.ofList, mem_distinct, List.mem_filterMap,
    find?_lineStarts_eq_some_iff h hg]

end Bytecode

end TraceLens
