import TraceLens.Proofs.Bytecode.Places
import TraceLens.Proofs.Pieces

/-!
# Where code is cut

The blocks of a code are its maximal straight-line runs: control enters a run at its first
instruction only, leaves it after its last one only, and every place at which control may enter or
leave is a cut.

Main statements: `mem_leaders_iff_separated` says what makes a block start at an instruction, and
`startsRun_iff` that runs start at just these instructions. `CodeGraph.Runs` is what the graph of a
code shows of its runs.
-/

namespace TraceLens.Bytecode

namespace Code

variable {code : Code} {i j : Instruction}

/-- Two instructions that stand side by side are separated when control may enter at the second one,
by a jump or as a handler, or may leave after the first one. -/
def Separated (code : Code) (i j : Instruction) : Prop :=
  (∃ jump ∈ code.instructions, jump.isJump ∧ jump.target = some j.offset) ∨
    (∃ handler ∈ code.handlers, handler.target = j.offset) ∨
    i.isJump ∨ i.isReturn ∨ i.isRaise ∨
    i.isCall ∧ ∃ handler ∈ code.handlers, handler.start ≤ i.offset ∧ i.offset < handler.stop

theorem isGuardedCall_iff : code.isGuardedCall i ↔
    i.isCall ∧ ∃ handler ∈ code.handlers, handler.start ≤ i.offset ∧ i.offset < handler.stop := by
  simp [isGuardedCall, handlerAt?]

theorem endsRun_iff :
    code.endsRun i ↔ i.isJump ∨ i.isReturn ∨ i.isRaise ∨ code.isGuardedCall i := by
  simp [endsRun, or_assoc]

/-- Only one instruction comes before another, and it is the one of the index before. -/
theorem eq_of_neighbours (h : code.Regular) {k : Nat} (hi : code.instructions[k]? = some i)
    (hj : code.instructions[k + 1]? = some j) {i' j' : Instruction}
    (neighbours : [i', j'] <:+: code.instructions) (same : j'.offset = j.offset) : i' = i := by
  obtain ⟨m, hi', hj'⟩ := neighbours_iff.1 neighbours
  have offsets {n : Nat} {x : Instruction} (hx : code.instructions[n]? = some x) :
      code.offsets[n]? = some x.offset := by
    simp [offsets, hx]
  have index : m + 1 = k + 1 := by
    have nodup := nodup_offsets h.ascending
    apply (List.getElem?_inj (List.getElem?_eq_some_iff.1 (offsets hj')).1 nodup).1
    rw [offsets hj', offsets hj, same]
  obtain rfl : m = k := by omega
  exact Option.some_inj.1 (hi'.symm.trans hi)

/-- A block starts at an instruction that is not the first one just if it is separated from the one
before it. -/
theorem mem_leaders_iff_separated (h : code.Regular) {k : Nat}
    (hi : code.instructions[k]? = some i) (hj : code.instructions[k + 1]? = some j) :
    j.offset ∈ code.leaders ↔ code.Separated i j := by
  have inside : j.offset ∈ code.offsets := List.mem_map_of_mem (List.mem_of_getElem? hj)
  have notFirst : j.offset ∉ code.offsets.take 1 := by
    obtain ⟨first, rest, heq⟩ := List.exists_cons_of_ne_nil h.nonempty
    have ascending := h.ascending
    rw [heq] at hj ascending
    have := List.rel_of_pairwise_cons ascending (List.mem_of_getElem? (by simpa using hj))
    simp only [offsets, heq, List.map_cons, List.take_succ_cons, List.take_zero,
      List.mem_singleton]
    omega
  have afterRun : j.offset ∈ code.offsetsAfterRuns ↔ code.endsRun i := by
    rw [mem_offsetsAfterRuns]
    constructor
    · rintro ⟨i', j', neighbours, ends, same⟩
      obtain rfl := eq_of_neighbours h hi hj neighbours same
      exact ends
    · intro ends
      exact ⟨i, j, neighbours_iff.2 ⟨k, hi, hj⟩, ends, rfl⟩
  simp only [mem_leaders, inside, true_and, leaderCandidates, List.mem_append, notFirst, false_or,
    afterRun, mem_jumpTargets, List.mem_map, endsRun_iff, isGuardedCall_iff, Separated]
  exact or_right_comm.trans or_assoc

/-- A run starts at each instruction that is separated from the one before it, and at no other. -/
theorem startsRun_iff (h : code.Regular) {k : Nat} (hi : code.instructions[k]? = some i)
    (hj : code.instructions[k + 1]? = some j) :
    (∃ n < code.groups.length, Pieces.startOf code.groups n = k + 1) ↔ code.Separated i j := by
  rw [← mem_leaders_iff_separated h hi hj]
  rw [← flatten_groups h] at hj
  constructor
  · rintro ⟨n, hn, start⟩
    have hg := List.getElem?_eq_getElem hn
    obtain ⟨first, rest, heq, -⟩ := group_eq_cons h hg
    have hfirst : code.groups[n][0]? = some j := by
      rw [← Pieces.getElem?_flatten hg (by simp [heq]), Nat.add_zero, start]
      exact hj
    exact (mem_leaders_iff_of_group h hg hfirst).2 rfl
  · intro leader
    obtain ⟨n, group, m, hg, hm, index⟩ := Pieces.exists_piece (List.getElem?_eq_some_iff.1 hj).1
    rw [index, Pieces.getElem?_flatten hg hm] at hj
    obtain rfl := (mem_leaders_iff_of_group h hg hj).1 leader
    exact ⟨n, (List.getElem?_eq_some_iff.1 hg).1, index.symm⟩

/-- Control neither enters nor leaves a run in its middle. -/
theorem not_separated_of_infix (h : code.Regular) {group : List Instruction}
    (hg : group ∈ code.groups) (hij : [i, j] <:+: group) : ¬code.Separated i j := by
  obtain ⟨n, hg⟩ := List.getElem?_of_mem hg
  obtain ⟨k, hi, hj⟩ := neighbours_iff.1 hij
  have neighbours : [i, j] <:+: code.instructions :=
    (neighbours_iff_of_group h hg hi).2 (.inl hj)
  obtain ⟨m, hi', hj'⟩ := neighbours_iff.1 neighbours
  rw [← mem_leaders_iff_separated h hi' hj', mem_leaders_iff_of_group h hg hj]
  omega

end Code

/-- The blocks of a graph are runs of the instructions of a code: each one is made from a run, whose
instructions stand in it one after the other, and the runs are cut where instructions are separated
and nowhere else. -/
structure CodeGraph.Runs (g : CodeGraph) (code : Code) (origin : Origin)
    (runs : List (List Instruction)) : Prop where
  blocks : List.Forall₂ (fun p b => code.Makes origin p.2 p.1 b) runs.zipIdx g.body.blocks
  placed : ∀ (n : Nat) run (k : Nat) i, runs[n]? = some run → run[k]? = some i →
    g.locations.find? i.offset = some ⟨n, k⟩
  nonempty : ∀ run ∈ runs, run ≠ []
  flatten : runs.flatten = code.instructions
  cut : ∀ k i j, code.instructions[k]? = some i → code.instructions[k + 1]? = some j →
    ((∃ n < runs.length, Pieces.startOf runs n = k + 1) ↔ code.Separated i j)
  unbroken : ∀ run ∈ runs, ∀ i j, [i, j] <:+: run → ¬code.Separated i j

/-- The blocks of a code are its maximal straight-line runs, wherever its jumps and handlers
lead. -/
theorem codeGraph_runs {code : Code} (h : code.Regular) (source file : String) :
    ∃ origin g runs, code.origin source file = .ok origin ∧ codeGraph code source file = .ok g ∧
      g.Runs code origin runs := by
  obtain ⟨g, hg⟩ := exists_codeGraph h source file
  obtain ⟨origin, horigin, hs⟩ := shows_of_codeGraph h hg
  refine ⟨origin, g, code.groups, horigin, hg, ?_⟩
  constructor
  case blocks => exact hs.blocks
  case placed =>
    intro n run k i hrun hi
    exact (hs.find?_eq_some_iff h).2 ⟨i, ⟨n, run, k, hrun, hi, rfl⟩, rfl⟩
  case nonempty =>
    intro run hrun
    obtain ⟨n, hn⟩ := List.getElem?_of_mem hrun
    obtain ⟨first, rest, rfl, -⟩ := Code.group_eq_cons h hn
    exact List.cons_ne_nil first rest
  case flatten => exact Code.flatten_groups h
  case cut =>
    intro k i j hi hj
    exact Code.startsRun_iff h hi hj
  case unbroken =>
    intro run hrun i j hij
    exact Code.not_separated_of_infix h hrun hij

theorem codeGraph_runs_guardedLoop : guardedLoop.Regular ∧
    ∃ origin g runs, guardedLoop.origin "while f(): pass" "" = .ok origin ∧
      codeGraph guardedLoop "while f(): pass" = .ok g ∧ g.Runs guardedLoop origin runs :=
  ⟨guardedLoop_regular, codeGraph_runs guardedLoop_regular _ _⟩

end TraceLens.Bytecode
