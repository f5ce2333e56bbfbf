import TraceLens.Proofs.Bytecode.Places

/-!
# Control flow

One instruction may run right after another because it stands there, because the other one jumps
to it, or because it handles the exceptions of a call. The graph of a code has just these steps:
along its blocks and, from the end of a block, along the edges of its terminator.

Main statement: `Shows.flow_iff_step`, from `step_iff_of_next` in the middle of a run and
`step_iff_of_last` at its end.
-/

namespace TraceLens.Bytecode

/-- Code that control does not leave but by a return or a raise: the names and the numbers of the
instructions agree on what jumps, every target is an instruction, and nothing falls off the end. -/
structure Code.Closed (code : Code) : Prop where
  jumps : ∀ i ∈ code.instructions, i.isUnconditional → i.isJump
  others : ∀ i ∈ code.instructions, i.isReturn ∨ i.isRaise ∨ i.isCall → ¬i.isJump
  target : ∀ i ∈ code.instructions, i.isJump → ∃ t ∈ code.offsets, i.target = some t
  handler : ∀ e ∈ code.handlers, e.target ∈ code.offsets
  last : ∀ i ∈ code.instructions.getLast?, i.isUnconditional ∨ i.isReturn ∨ i.isRaise

/-- Whether an instruction never goes on to the one after it. -/
def Instruction.Leaves (i : Instruction) : Prop := i.isUnconditional ∨ i.isReturn ∨ i.isRaise

/-- An entry of the table of handlers covers an offset. -/
def Handler.Covers (e : Handler) (offset : Int) : Prop := e.start ≤ offset ∧ offset < e.stop

/-- The first entry that covers an offset goes to the target. -/
def Code.HandledAt (code : Code) (offset target : Int) : Prop :=
  ∃ before e after, code.handlers = before ++ e :: after ∧ (∀ b ∈ before, ¬b.Covers offset) ∧
    e.Covers offset ∧ e.target = target

/-- Instruction `j` may run right after instruction `i`. -/
inductive Code.Step (code : Code) (i j : Instruction) : Prop
  | next (beside : [i, j] <:+: code.instructions) (stays : ¬i.Leaves)
  | jump (jumps : i.isJump) (target : i.target = some j.offset)
  | unwind (calls : i.isCall) (handler : code.HandledAt i.offset j.offset)

namespace CodeGraph

/-- Whether a place is the first one of its block. -/
def IsFirst (g : CodeGraph) (l : Location) : Prop :=
  ∀ m ∈ g.locations.values, m.block = l.block → l.statement ≤ m.statement

/-- Whether a place is the last one of its block. -/
def IsLast (g : CodeGraph) (l : Location) : Prop :=
  ∀ m ∈ g.locations.values, m.block = l.block → m.statement ≤ l.statement

/-- Control goes from instruction `i` to instruction `j` in a graph: to the next place of a block,
or from the last place of a block to the first place of one of its successors. -/
inductive Flow (g : CodeGraph) (i j : Instruction) : Prop
  | inside {b k : Int} (source : g.locations.find? i.offset = some ⟨b, k⟩)
      (target : g.locations.find? j.offset = some ⟨b, k + 1⟩)
  | edge {l m : Location} {block : Block} (source : g.locations.find? i.offset = some l)
      (last : g.IsLast l) (target : g.locations.find? j.offset = some m) (first : g.IsFirst m)
      (owner : g.body.block? l.block = .ok block)
      (successor : block.terminator.ending.GoesTo m.block)

end CodeGraph

/-! ## Kinds of instructions -/

namespace Instruction

variable {i : Instruction}

theorem not_isCall_of_isReturn (h : i.isReturn) : ¬i.isCall := by
  simp only [isReturn, List.contains_eq_mem, List.mem_cons, List.not_mem_nil, or_false,
    decide_eq_true_eq] at h
  unfold isCall
  rcases h with h | h <;> rw [h] <;> decide

theorem not_isCall_of_isRaise (h : i.isRaise) : ¬i.isCall := by
  simp only [isRaise, List.contains_eq_mem, List.mem_cons, List.not_mem_nil, or_false,
    decide_eq_true_eq] at h
  unfold isCall
  rcases h with h | h <;> rw [h] <;> decide

end Instruction

namespace Code

variable {code : Code}

theorem Closed.target_mem_leaders (hc : code.Closed) {i : Instruction} (hi : i ∈ code.instructions)
    (hj : i.isJump) : ∃ t ∈ code.leaders, i.target = some t := by
  obtain ⟨t, ht, htarget⟩ := hc.target i hi hj
  refine ⟨t, mem_leaders.2 ⟨ht, ?_⟩, htarget⟩
  simp only [leaderCandidates, List.mem_append, mem_jumpTargets]
  exact .inl (.inl (.inr ⟨i, hi, hj, htarget⟩))

theorem Closed.handler_mem_leaders (hc : code.Closed) {offset t : Int}
    (h : code.handlerAt? offset = some t) : t ∈ code.leaders := by
  obtain ⟨e, he, rfl⟩ := Option.map_eq_some_iff.1 h
  have hmem := List.mem_of_find?_eq_some he
  refine mem_leaders.2 ⟨hc.handler e hmem, ?_⟩
  simp only [leaderCandidates, List.mem_append]
  exact .inr (List.mem_map_of_mem hmem)

/-- The instruction at a leader is the first one of the leader's block. -/
theorem offset_eq_leader_iff (h : code.Regular) {t : Int} (ht : t ∈ code.leaders) {c : Nat}
    {group : List Instruction} (hg : code.groups[c]? = some group) {m : Nat} {j : Instruction}
    (hj : group[m]? = some j) :
    j.offset = t ↔ m = 0 ∧ c = blockIndex code.leaders t := by
  have hblock := ((mem_group_iff hg).1 (List.mem_of_getElem? hj)).2
  constructor
  · rintro rfl
    exact ⟨(mem_leaders_iff_of_group h hg hj).1 ht, hblock.symm⟩
  · rintro ⟨rfl, hct⟩
    obtain ⟨p, hp, rfl⟩ := List.getElem_of_mem ht
    rw [blockIndex_getElem code.pairwise_leaders] at hct
    subst hct
    obtain ⟨first, rest, rfl, hfirst⟩ := group_eq_cons h hg
    obtain rfl : first = j := by simpa using hj
    rw [List.getElem?_eq_getElem hp, Option.some_inj] at hfirst
    exact hfirst.symm

theorem handlerAt?_eq_some_iff {offset target : Int} :
    code.handlerAt? offset = some target ↔ code.HandledAt offset target := by
  have covers (e : Handler) :
      (decide (e.start ≤ offset) && decide (offset < e.stop)) = true ↔ e.Covers offset := by
    simp [Handler.Covers]
  simp only [handlerAt?, Option.map_eq_some_iff, List.find?_eq_some_iff_append, covers,
    Bool.not_eq_true', ← Bool.not_eq_true]
  constructor
  · rintro ⟨e, ⟨hcovers, before, after, hsplit, hbefore⟩, rfl⟩
    exact ⟨before, e, after, hsplit, hbefore, hcovers, rfl⟩
  · rintro ⟨before, e, after, hsplit, hbefore, hcovers, rfl⟩
    exact ⟨e, ⟨hcovers, before, after, hsplit, hbefore⟩, rfl⟩

theorem step_iff {i j : Instruction} :
    code.Step i j ↔ ([i, j] <:+: code.instructions ∧ ¬i.Leaves) ∨
      (i.isJump ∧ i.target = some j.offset) ∨
        i.isCall ∧ code.handlerAt? i.offset = some j.offset := by
  rw [handlerAt?_eq_some_iff]
  constructor
  · rintro (⟨hij, hstay⟩ | ⟨hj, ht⟩ | ⟨hcall, ht⟩)
    exacts [.inl ⟨hij, hstay⟩, .inr (.inl ⟨hj, ht⟩), .inr (.inr ⟨hcall, ht⟩)]
  · rintro (⟨hij, hstay⟩ | ⟨hj, ht⟩ | ⟨hcall, ht⟩)
    exacts [.next hij hstay, .jump hj ht, .unwind hcall ht]

/-- In the middle of a run the only step is to the next instruction. -/
theorem step_iff_of_next (h : code.Regular) (hc : code.Closed) {n : Nat}
    {group : List Instruction} (hg : code.groups[n]? = some group) {k : Nat} {i j : Instruction}
    (hi : group[k]? = some i) (hk : k + 1 < group.length) :
    code.Step i j ↔ group[k + 1]? = some j := by
  have stays := not_endsRun_of_next h hg hi (List.getElem?_eq_getElem hk)
  simp only [endsRun, isGuardedCall, Bool.or_eq_true, Bool.and_eq_true, not_or] at stays
  obtain ⟨⟨⟨hjump, hreturn⟩, hraise⟩, hcall⟩ := stays
  have hmem := ((mem_group_iff hg).1 (List.mem_of_getElem? hi)).1
  have hleaves : ¬i.Leaves := by
    rintro (hu | hr | hx)
    exacts [hjump (hc.jumps i hmem hu), hreturn hr, hraise hx]
  have hunguarded : ¬(i.isCall ∧ code.handlerAt? i.offset = some j.offset) := by
    rintro ⟨hic, ht⟩
    exact hcall ⟨hic, by rw [ht]; rfl⟩
  rw [step_iff, neighbours_iff_of_group h hg hi]
  simp [hleaves, hjump, hunguarded, hk.ne]

/-- Only an instruction that leaves is the last one of its code. -/
theorem Closed.next_lt (hc : code.Closed) (h : code.Regular) {n : Nat} {group : List Instruction}
    (hg : code.groups[n]? = some group) {i : Instruction} (hi : group.getLast? = some i)
    (stays : ¬i.Leaves) : n + 1 < code.leaders.length := by
  have hmem := ((mem_group_iff hg).1 (List.mem_of_getLast? hi)).1
  rw [List.getLast?_eq_getElem?] at hi
  rcases getLast?_or_exists_neighbour hmem with hlast | ⟨j, hij⟩
  · exact absurd (hc.last i hlast) stays
  · rcases (neighbours_iff_of_group h hg hi).1 hij with hj | ⟨-, rest, hnext⟩
    · have := (List.getElem?_eq_some_iff.1 hj).1
      omega
    · rw [← length_groups]
      exact (List.getElem?_eq_some_iff.1 hnext).1

/-- A run that falls through ends with an instruction that only goes on to the next one. -/
theorem Closed.stays_of_fallsThrough (hc : code.Closed) (h : code.Regular) {n : Nat}
    {group : List Instruction} (hg : code.groups[n]? = some group) {i : Instruction}
    (hi : group.getLast? = some i) (falls : code.ending? code.leaders n i = none) :
    ¬i.Leaves ∧ ¬i.isJump ∧ (i.isCall → code.handlerAt? i.offset = none) ∧
      n + 1 < code.leaders.length := by
  have hmem := ((mem_group_iff hg).1 (List.mem_of_getLast? hi)).1
  have hends : ¬code.EndsBlock i (n + 1 < code.leaders.length) := by
    rw [← isSome_ending?_iff, falls]
    simp
  simp only [EndsBlock, not_or] at hends
  obtain ⟨hjump, hreturn, hraise, hcall⟩ := hends
  have hleaves : ¬i.Leaves := by
    rintro (hu | hr | hx)
    · obtain ⟨t, -, ht⟩ := hc.target i hmem (hc.jumps i hmem hu)
      exact hjump ⟨by simp [ht], .inl hu⟩
    · exact hreturn hr
    · exact hraise hx
  have hmore := hc.next_lt h hg hi hleaves
  refine ⟨hleaves, fun hj => ?_, by simpa [isGuardedCall, hmore] using hcall, hmore⟩
  obtain ⟨t, -, ht⟩ := hc.target i hmem hj
  exact hjump ⟨by simp [ht], .inr ⟨hj, hmore⟩⟩

/-- Where control goes from the ending that an instruction makes, by the kind of the instruction. -/
theorem Closed.goesTo_iff_of_ending? (hc : code.Closed) {n : Nat} {i : Instruction}
    (hmem : i ∈ code.instructions) {e : Ending} (he : code.ending? code.leaders n i = some e)
    {c : Nat} : e.GoesTo c ↔ (c = n + 1 ∧ ¬i.Leaves) ∨
      (i.isJump ∧ ∃ t, i.target = some t ∧ c = blockIndex code.leaders t) ∨
        i.isCall ∧ ∃ t, code.handlerAt? i.offset = some t ∧ c = blockIndex code.leaders t := by
  have others := hc.others i hmem
  rcases ending?_cases he with ⟨t, hu, ht, rfl⟩ | ⟨t, label, hj, hu, ht, -, rfl⟩ | ⟨hr, rfl⟩ |
    ⟨hx, rfl⟩ | ⟨t, arguments, hcall, ht, hmore, rfl⟩
  · have hj := hc.jumps i hmem hu
    have hcall : ¬i.isCall := fun hcall => others (.inr (.inr hcall)) hj
    simp only [Ending.goesTo_goto, Int.natCast_inj, Instruction.Leaves, hu, hj, ht, hcall,
      true_or, not_true_eq_false, and_false, false_or, true_and, false_and, or_false,
      Option.some_inj, exists_eq_left', Bool.false_eq_true]
  · have hreturn : ¬i.isReturn := fun hr => others (.inl hr) hj
    have hraise : ¬i.isRaise := fun hx => others (.inr (.inl hx)) hj
    have hcall : ¬i.isCall := fun hcall => others (.inr (.inr hcall)) hj
    simp only [Ending.goesTo_switch, List.map_cons, List.map_nil, List.mem_singleton,
      Int.natCast_inj, Instruction.Leaves, hu, hj, ht, hreturn, hraise, hcall, or_self,
      not_false_eq_true, and_true, true_and, false_and, or_false, Option.some_inj,
      exists_eq_left', Bool.false_eq_true]
    omega
  · have hj := others (.inl hr)
    simp [Instruction.Leaves, hr, hj, Instruction.not_isCall_of_isReturn hr]
  · have hj := others (.inr (.inl hx))
    simp [Instruction.Leaves, hx, hj, Instruction.not_isCall_of_isRaise hx]
  · have hj := others (.inr (.inr hcall))
    have hleaves : ¬i.Leaves := by
      rintro (hu | hr | hx)
      exacts [hj (hc.jumps i hmem hu), Instruction.not_isCall_of_isReturn hr hcall,
        Instruction.not_isCall_of_isRaise hx hcall]
    simp only [Ending.goesTo_call, Option.some_inj, hleaves, hj, hcall, ht, not_false_eq_true,
      and_true, true_and, false_and, false_or, exists_eq_left', Bool.false_eq_true]
    omega

/-- Where control goes from the end of a block, by the kind of its last instruction. -/
theorem goesTo_endingOf_iff (h : code.Regular) (hc : code.Closed) {n : Nat}
    {group : List Instruction} (hg : code.groups[n]? = some group) {i : Instruction}
    (hi : group.getLast? = some i) {c : Nat} :
    (code.endingOf n group).GoesTo c ↔ (c = n + 1 ∧ ¬i.Leaves) ∨
      (i.isJump ∧ ∃ t, i.target = some t ∧ c = blockIndex code.leaders t) ∨
        i.isCall ∧ ∃ t, code.handlerAt? i.offset = some t ∧ c = blockIndex code.leaders t := by
  have hown : code.ownEnding? n group = code.ending? code.leaders n i := by
    simp [ownEnding?, hi]
  unfold endingOf
  cases he : code.ending? code.leaders n i with
  | none =>
    obtain ⟨hleaves, hj, hunguarded, hmore⟩ := hc.stays_of_fallsThrough h hg hi he
    rw [hown, he, Option.getD_none, goesTo_fallThrough]
    constructor
    · rintro ⟨-, hcn⟩
      exact .inl ⟨by omega, hleaves⟩
    · rintro (⟨rfl, -⟩ | ⟨hj', -⟩ | ⟨hcall, t, ht, -⟩)
      · exact ⟨hmore, rfl⟩
      · exact absurd hj' hj
      · simp [hunguarded hcall] at ht
  | some e =>
    rw [hown, he, Option.getD_some]
    exact hc.goesTo_iff_of_ending? ((mem_group_iff hg).1 (List.mem_of_getLast? hi)).1 he

/-- From the end of a block control steps to the start of a block that its terminator names. -/
theorem step_iff_of_last (h : code.Regular) (hc : code.Closed) {n : Nat}
    {group : List Instruction} (hg : code.groups[n]? = some group) {i : Instruction}
    (hi : group.getLast? = some i) {c m : Nat} {group' : List Instruction}
    (hg' : code.groups[c]? = some group') {j : Instruction} (hj : group'[m]? = some j) :
    code.Step i j ↔ m = 0 ∧ (code.endingOf n group).GoesTo c := by
  have hmem := ((mem_group_iff hg).1 (List.mem_of_getLast? hi)).1
  have beside : [i, j] <:+: code.instructions ↔ m = 0 ∧ c = n + 1 := by
    rw [List.getLast?_eq_getElem?] at hi
    have hlen := (List.getElem?_eq_some_iff.1 hi).1
    rw [neighbours_iff_of_group h hg hi]
    constructor
    · rintro (hnext | ⟨-, rest, hnext⟩)
      · have := (List.getElem?_eq_some_iff.1 hnext).1
        omega
      · have hleader := (mem_leaders_iff_of_group h hnext (i := j) (k := 0) rfl).2 rfl
        have hblock := ((mem_group_iff hnext).1 List.mem_cons_self).2
        have hblock' := ((mem_group_iff hg').1 (List.mem_of_getElem? hj)).2
        exact ⟨(mem_leaders_iff_of_group h hg' hj).1 hleader, by omega⟩
    · rintro ⟨rfl, rfl⟩
      obtain ⟨first, rest, rfl, -⟩ := group_eq_cons h hg'
      obtain rfl : first = j := by simpa using hj
      exact .inr ⟨by omega, rest, hg'⟩
  have jump : i.isJump ∧ i.target = some j.offset ↔
      m = 0 ∧ i.isJump ∧ ∃ t, i.target = some t ∧ c = blockIndex code.leaders t := by
    rw [and_left_comm]
    refine and_congr_right fun hjump => ?_
    obtain ⟨t, ht, htarget⟩ := hc.target_mem_leaders hmem hjump
    simp [htarget, ← offset_eq_leader_iff h ht hg' hj, eq_comm]
  have unwind : i.isCall ∧ code.handlerAt? i.offset = some j.offset ↔
      m = 0 ∧ i.isCall ∧ ∃ t, code.handlerAt? i.offset = some t ∧
        c = blockIndex code.leaders t := by
    rw [and_left_comm]
    refine and_congr_right fun _ => ?_
    cases ht : code.handlerAt? i.offset with
    | none => simp
    | some t => simp [← offset_eq_leader_iff h (hc.handler_mem_leaders ht) hg' hj, eq_comm]
  rw [step_iff, goesTo_endingOf_iff h hc hg hi, beside, jump, unwind, and_assoc, ← and_or_left,
    ← and_or_left]

end Code

namespace CodeGraph

variable {g : CodeGraph}

theorem flow_iff {i j : Instruction} {l m : Location}
    (hi : g.locations.find? i.offset = some l) (hj : g.locations.find? j.offset = some m) :
    g.Flow i j ↔ m = ⟨l.block, l.statement + 1⟩ ∨ g.IsLast l ∧ g.IsFirst m ∧
      ∃ block, g.body.block? l.block = .ok block ∧ block.terminator.ending.GoesTo m.block := by
  constructor
  · rintro (⟨hi', hj'⟩ | ⟨hi', hlast, hj', hfirst, hblock, hgoes⟩)
    · rw [hi, Option.some_inj] at hi'
      rw [hj, Option.some_inj] at hj'
      exact .inl (by rw [hi', hj'])
    · rw [hi, Option.some_inj] at hi'
      rw [hj, Option.some_inj] at hj'
      subst hi' hj'
      exact .inr ⟨hlast, hfirst, _, hblock, hgoes⟩
  · rintro (rfl | ⟨hlast, hfirst, block, hblock, hgoes⟩)
    · exact .inside hi hj
    · exact .edge hi hlast hj hfirst hblock hgoes

variable {code : Code} {origin : Origin} {length : Nat}

theorem Shows.isLast_iff (hs : g.Shows code origin length) {n : Nat} {group : List Instruction}
    (hg : code.groups[n]? = some group) {k : Nat} (hk : k < group.length) :
    g.IsLast ⟨n, k⟩ ↔ k + 1 = group.length := by
  constructor
  · intro hlast
    have hend : code.PlacedAt group[group.length - 1] ⟨n, (group.length - 1 : Nat)⟩ :=
      ⟨n, group, _, hg, List.getElem?_eq_getElem (by omega), rfl⟩
    have := hlast _ (hs.mem_values_iff.2 ⟨_, hend⟩) rfl
    dsimp only at this
    omega
  · intro hend l hl hblock
    obtain ⟨i, n', group', k', hg', hk', rfl⟩ := hs.mem_values_iff.1 hl
    obtain rfl : n = n' := by
      dsimp only at hblock
      omega
    obtain rfl : group = group' := Option.some_inj.1 (hg.symm.trans hg')
    have := (List.getElem?_eq_some_iff.1 hk').1
    dsimp only
    omega

theorem Shows.isFirst_iff (hs : g.Shows code origin length) {n : Nat} {group : List Instruction}
    (hg : code.groups[n]? = some group) {k : Nat} (hk : k < group.length) :
    g.IsFirst ⟨n, k⟩ ↔ k = 0 := by
  constructor
  · intro hfirst
    have hstart : code.PlacedAt group[0] ⟨n, (0 : Nat)⟩ :=
      ⟨n, group, 0, hg, List.getElem?_eq_getElem _, rfl⟩
    have := hfirst _ (hs.mem_values_iff.2 ⟨_, hstart⟩) rfl
    dsimp only at this
    omega
  · rintro rfl l hl -
    obtain ⟨i, n', group', k', -, -, rfl⟩ := hs.mem_values_iff.1 hl
    dsimp only
    omega

/-- The edges of a graph are the control flow of the code that it shows. -/
theorem Shows.flow_iff_step (hs : g.Shows code origin length) (h : code.Regular) (hc : code.Closed)
    {i j : Instruction} (hi : i ∈ code.instructions) (hj : j ∈ code.instructions) :
    g.Flow i j ↔ code.Step i j := by
  obtain ⟨n, group, k, hg, hk⟩ := Code.exists_group h hi
  obtain ⟨c, group', m, hg', hm⟩ := Code.exists_group h hj
  have hkl := (List.getElem?_eq_some_iff.1 hk).1
  have hml := (List.getElem?_eq_some_iff.1 hm).1
  have place {i : Instruction} {n k : Nat} {group : List Instruction}
      (hg : code.groups[n]? = some group) (hk : group[k]? = some i) :
      g.locations.find? i.offset = some ⟨n, k⟩ :=
    (hs.find?_eq_some_iff h).2 ⟨i, ⟨n, group, k, hg, hk, rfl⟩, rfl⟩
  rw [flow_iff (place hg hk) (place hg' hm), hs.isLast_iff hg hkl, hs.isFirst_iff hg' hml]
  rcases Nat.lt_or_eq_of_le (Nat.succ_le_of_lt hkl) with hnext | hend
  · rw [Code.step_iff_of_next h hc hg hk hnext]
    constructor
    · rintro (heq | ⟨hend, -⟩)
      · obtain ⟨rfl, rfl⟩ : c = n ∧ m = k + 1 := by
          simp only [Location.mk.injEq] at heq
          omega
        obtain rfl : group = group' := Option.some_inj.1 (hg.symm.trans hg')
        exact hm
      · omega
    · intro hj
      exact .inl (Option.some_inj.1 ((place hg' hm).symm.trans (place hg hj)))
  · have hlast : group.getLast? = some i := by
      rw [List.getLast?_eq_getElem?, ← hend]
      exact hk
    obtain ⟨b, hb, hmade⟩ := hs.exists_block hg
    have hblock : g.body.block? (n : Int) = .ok b := by simp [Body.block?, hb]
    rw [Code.step_iff_of_last h hc hg hlast hg' hm, ← hmade.ending]
    constructor
    · rintro (heq | ⟨-, hm0, b', hb', hgoes⟩)
      · -- `i` is the last of its run, so nothing stands right after it
        obtain ⟨rfl, rfl⟩ : c = n ∧ m = k + 1 := by
          simp only [Location.mk.injEq] at heq
          omega
        obtain rfl : group = group' := Option.some_inj.1 (hg.symm.trans hg')
        omega
      · obtain rfl : b = b' := Except.ok.inj (hblock.symm.trans hb')
        exact ⟨hm0, hgoes⟩
    · rintro ⟨hm0, hgoes⟩
      exact .inr ⟨hend, hm0, b, hblock, hgoes⟩

end CodeGraph

/-- The edges of a code's graph are its control flow: one instruction may run right after another
just when the graph leads from the one to the other. -/
theorem step_iff_flow {code : Code} (h : code.Regular) (hc : code.Closed) (source file : String) :
    ∃ g, codeGraph code source file = .ok g ∧
      ∀ i ∈ code.instructions, ∀ j ∈ code.instructions, code.Step i j ↔ g.Flow i j := by
  obtain ⟨g, hg⟩ := exists_codeGraph h source file
  obtain ⟨origin, -, hs⟩ := shows_of_codeGraph h hg
  exact ⟨g, hg, fun i hi j hj => (hs.flow_iff_step h hc hi hj).symm⟩

theorem step_iff_flow_guardedLoop : guardedLoop.Regular ∧ guardedLoop.Closed ∧
    ∃ g, codeGraph guardedLoop "while f(): pass" = .ok g ∧
      ∀ i ∈ guardedLoop.instructions, ∀ j ∈ guardedLoop.instructions,
        guardedLoop.Step i j ↔ g.Flow i j := by
  have h := guardedLoop_regular
  have hc : guardedLoop.Closed := by constructor <;> decide
  exact ⟨h, hc, step_iff_flow h hc _ _⟩

end TraceLens.Bytecode
