import Mathlib.Data.List.Infix
import Mathlib.Data.List.Sort
import TraceLens.Bytecode.CodeGraph

/-!
# Runs of instructions

The leaders of a code cut its instructions into runs. The runs follow one another in order, none
is empty, and each one starts at the leader of its number and goes on until the next leader.

Main statements: `flatten_groups` puts the runs together again, `getElem_le_iff` says which leaders
lie at or before an offset, and `not_endsRun_of_next` that control never leaves a run in its middle.
-/

namespace TraceLens.Bytecode

/-- Code as a compiler leaves it: there are instructions, their offsets ascend, and line numbers,
where there are any, are not negative. Targets, handlers and columns may be anything. -/
structure Code.Regular (code : Code) : Prop where
  nonempty : code.instructions ≠ []
  ascending : code.instructions.Pairwise fun i j => i.offset < j.offset
  firstLine : ∀ n ∈ code.firstLine, 0 ≤ n
  lines : ∀ i ∈ code.instructions, ∀ p ∈ i.positions,
    (∀ n ∈ p.line, 0 ≤ n) ∧ ∀ n ∈ p.endLine, 0 ≤ n

/-- The offsets of the instructions ascend. -/
def Code.Ascending (code : Code) : Prop :=
  code.instructions.Pairwise fun i j => i.offset < j.offset

/-- A loop around a guarded call: a block for each kind of ending. -/
def guardedLoop : Code where
  file := "loop.src"
  instructions := [
    ⟨0, 151, "RESUME", some 0, some 0, "0", some ⟨some 0, some 1, some 0, some 0⟩⟩,
    ⟨2, 171, "CALL", some 0, some 0, "0", some ⟨some 1, some 1, some 6, some 9⟩⟩,
    ⟨4, 114, "POP_JUMP_IF_FALSE", some 1, some 8, "to 8", some ⟨some 1, some 1, some 6, some 9⟩⟩,
    ⟨6, 140, "JUMP_BACKWARD", some 4, some 0, "to 0", some ⟨some 2, none, none, none⟩⟩,
    ⟨8, 83, "RETURN_VALUE", none, none, "", none⟩,
    ⟨10, 119, "RERAISE", some 0, some 0, "0", none⟩]
  handlers := [⟨2, 4, 10⟩]

theorem guardedLoop_regular : guardedLoop.Regular := by
  constructor <;> decide

/-! ## Counting leaders -/

section Leaders

variable {leaders : List Int}

theorem getElem_le_iff_lt_countP (h : leaders.Pairwise (· < ·)) {m : Nat} (hm : m < leaders.length)
    (offset : Int) : leaders[m] ≤ offset ↔ m < leaders.countP (· ≤ offset) := by
  induction leaders generalizing m with
  | nil => simp at hm
  | cons x xs ih =>
    obtain ⟨hx, hxs⟩ := List.pairwise_cons.1 h
    by_cases hle : x ≤ offset
    · cases m with
      | zero => simp [hle]
      | succ m => simpa [hle] using ih hxs (by simpa using hm)
    · have none : xs.countP (· ≤ offset) = 0 := by
        rw [List.countP_eq_zero]
        intro y hy
        have := hx y hy
        simp only [decide_eq_true_eq]
        omega
      have later : ¬(x :: xs)[m] ≤ offset := by
        rcases List.mem_cons.1 (List.getElem_mem hm) with heq | hmem
        · omega
        · have := hx _ hmem
          omega
      simp [hle, none, later]

theorem blockIndex_mono (leaders : List Int) {a b : Int} (h : a ≤ b) :
    blockIndex leaders a ≤ blockIndex leaders b := by
  have : leaders.countP (· ≤ a) ≤ leaders.countP (· ≤ b) := by
    apply List.countP_mono_left
    intro x _ hx
    simp only [decide_eq_true_eq] at hx ⊢
    omega
  unfold blockIndex
  omega

/-- Of the leaders, those up to the block of an offset lie at or before it and no others; at least
one leader has to lie there. -/
theorem getElem_le_iff (h : leaders.Pairwise (· < ·)) {m : Nat} (hm : m < leaders.length)
    {x offset : Int} (hx : x ∈ leaders) (hle : x ≤ offset) :
    leaders[m] ≤ offset ↔ m ≤ blockIndex leaders offset := by
  have some : 0 < leaders.countP (· ≤ offset) :=
    List.countP_pos_iff.2 ⟨x, hx, by simpa using hle⟩
  rw [getElem_le_iff_lt_countP h hm]
  unfold blockIndex
  omega

theorem blockIndex_getElem (h : leaders.Pairwise (· < ·)) {m : Nat} (hm : m < leaders.length) :
    blockIndex leaders leaders[m] = m := by
  have iff {k : Nat} (hk : k < leaders.length) :
      leaders[k] ≤ leaders[m] ↔ k ≤ blockIndex leaders leaders[m] :=
    getElem_le_iff h hk (List.getElem_mem hm) le_rfl
  have hlen := blockIndex_lt (List.ne_nil_of_mem (List.getElem_mem hm)) leaders[m]
  apply Nat.le_antisymm
  · by_contra hlt
    have hle := (iff (k := m + 1) (by omega)).2 (by omega)
    have := List.pairwise_iff_getElem.1 h m (m + 1) hm (by omega) (by omega)
    omega
  · exact (iff hm).1 le_rfl

end Leaders

/-! ## Grouping by number -/

section Grouping

variable {α : Type} (number : α → Nat)

/-- Where numbers never fall, the items below a number come before all others. -/
theorem filter_lt_append_filter_eq {xs : List α} {m : Nat}
    (mono : xs.Pairwise fun a b => number a ≤ number b) (bound : ∀ x ∈ xs, number x < m + 1) :
    xs.filter (number · < m) ++ xs.filter (number · = m) = xs := by
  induction xs with
  | nil => rfl
  | cons x xs ih =>
    obtain ⟨hx, hxs⟩ := List.pairwise_cons.1 mono
    have ih := ih hxs fun y hy => bound y (List.mem_cons_of_mem _ hy)
    by_cases hlt : number x < m
    · simp [hlt, hlt.ne, ih]
    · have heq : number x = m := by have := bound x List.mem_cons_self; omega
      have all : ∀ y ∈ xs, number y = m := by
        intro y hy
        have := hx y hy
        have := bound y (List.mem_cons_of_mem _ hy)
        omega
      have none : xs.filter (number · < m) = [] := by
        simp only [List.filter_eq_nil_iff, decide_eq_true_eq]
        intro y hy
        have := all y hy
        omega
      have same : xs.filter (number · = m) = xs := by simpa using all
      simp [heq, none, same]

/-- Grouping items by numbers that never fall keeps their order. -/
theorem flatten_filter_range {xs : List α} {m : Nat}
    (mono : xs.Pairwise fun a b => number a ≤ number b) (bound : ∀ x ∈ xs, number x < m) :
    ((List.range m).map fun n => xs.filter (number · = n)).flatten = xs := by
  induction m generalizing xs with
  | zero =>
    cases xs with
    | nil => rfl
    | cons x xs => exact absurd (bound x List.mem_cons_self) (by omega)
  | succ m ih =>
    have below : ∀ n ∈ List.range m,
        xs.filter (number · = n) = (xs.filter (number · < m)).filter (number · = n) := by
      intro n hn
      rw [List.filter_filter]
      refine List.filter_congr fun x _ => ?_
      have := List.mem_range.1 hn
      by_cases hx : number x = n <;> simp [hx, this]
    rw [List.range_succ, List.map_append, List.flatten_append, List.map_congr_left below,
      ih (mono.filter _) (by simp)]
    simpa using filter_lt_append_filter_eq number mono bound

end Grouping

/-! ## Neighbours -/

/-- Two items are paired with each other in a list and its tail when they stand side by side. -/
theorem mem_zip_tail_iff {α : Type} {xs : List α} {a b : α} :
    (a, b) ∈ xs.zip xs.tail ↔ [a, b] <:+: xs := by
  induction xs with
  | nil => simp
  | cons x xs ih =>
    cases xs with
    | nil => simp [List.infix_cons_iff]
    | cons y ys =>
      rw [List.infix_cons_iff, ← ih]
      simp

/-- Two items stand side by side when their indices follow each other. -/
theorem neighbours_iff {α : Type} {xs : List α} {a b : α} :
    [a, b] <:+: xs ↔ ∃ k, xs[k]? = some a ∧ xs[k + 1]? = some b := by
  rw [List.infix_iff_getElem?]
  refine exists_congr fun k => ?_
  constructor
  · rintro ⟨_, hget⟩
    exact ⟨by simpa using hget 0 (by simp), by simpa [Nat.add_comm] using hget 1 (by simp)⟩
  · rintro ⟨ha, hb⟩
    have hlen := (List.getElem?_eq_some_iff.1 hb).1
    refine ⟨by simp; omega, fun i hi => ?_⟩
    match i, hi with
    | 0, _ => simpa using ha
    | 1, _ => simpa [Nat.add_comm] using hb

/-- An item is the last one or has a neighbour after it. -/
theorem getLast?_or_exists_neighbour {α : Type} {xs : List α} {a : α} (ha : a ∈ xs) :
    xs.getLast? = some a ∨ ∃ b, [a, b] <:+: xs := by
  obtain ⟨k, hk⟩ := List.getElem?_of_mem ha
  have hlt := (List.getElem?_eq_some_iff.1 hk).1
  rcases Nat.lt_or_eq_of_le (Nat.succ_le_of_lt hlt) with hnext | hend
  · exact .inr ⟨xs[k + 1], neighbours_iff.2 ⟨k, hk, List.getElem?_eq_getElem hnext⟩⟩
  · exact .inl (by rw [List.getLast?_eq_getElem?, ← hk]; congr 1; omega)

theorem neighbours_unique {α : Type} {xs : List α} (hn : xs.Nodup) {a b c : α}
    (hb : [a, b] <:+: xs) (hc : [a, c] <:+: xs) : b = c := by
  obtain ⟨k, ha, hb⟩ := neighbours_iff.1 hb
  obtain ⟨m, ha', hc⟩ := neighbours_iff.1 hc
  obtain rfl : k = m :=
    (List.getElem?_inj (List.getElem?_eq_some_iff.1 ha).1 hn).1 (ha.trans ha'.symm)
  exact Option.some_inj.1 (hb.symm.trans hc)

namespace Code

variable {code : Code}

theorem mem_jumpTargets {offset : Int} :
    offset ∈ code.jumpTargets ↔
      ∃ i ∈ code.instructions, i.isJump ∧ i.target = some offset := by
  simp [jumpTargets, and_assoc]

theorem mem_offsetsAfterRuns {offset : Int} :
    offset ∈ code.offsetsAfterRuns ↔
      ∃ i j, [i, j] <:+: code.instructions ∧ code.endsRun i ∧ j.offset = offset := by
  simp only [offsetsAfterRuns, List.mem_filterMap, Prod.exists, mem_zip_tail_iff]
  refine exists₂_congr fun i j => and_congr_right fun _ => ?_
  split <;> simp_all

theorem pairwise_leaders (code : Code) : code.leaders.Pairwise (· < ·) := by
  have sorted : code.leaders.Pairwise (· ≤ ·) := List.pairwise_mergeSort' (· ≤ ·) _
  have nodup : code.leaders.Nodup :=
    (List.mergeSort_perm _ _).nodup_iff.2 (nodup_distinct _)
  exact (sorted.and nodup).imp fun ⟨hle, hne⟩ => lt_of_le_of_ne hle hne

theorem length_groups (code : Code) : code.groups.length = code.leaders.length := by
  simp [groups, groupsBy]

theorem mem_group_iff {n : Nat} {group : List Instruction} (hg : code.groups[n]? = some group)
    {i : Instruction} :
    i ∈ group ↔ i ∈ code.instructions ∧ blockIndex code.leaders i.offset = n := by
  obtain ⟨hn, rfl⟩ := List.getElem?_eq_some_iff.1 hg
  simp [groups, groupsBy]

theorem group_sublist {n : Nat} {group : List Instruction} (hg : code.groups[n]? = some group) :
    group.Sublist code.instructions := by
  obtain ⟨hn, rfl⟩ := List.getElem?_eq_some_iff.1 hg
  simp [groups, groupsBy]

theorem offset_lt_of_neighbours (h : code.Regular) {i j : Instruction}
    (hij : [i, j] <:+: code.instructions) : i.offset < j.offset := by
  simpa using h.ascending.sublist hij.sublist

theorem nodup_offsets (h : code.Ascending) : code.offsets.Nodup :=
  List.pairwise_map.2 (h.imp fun hlt => hlt.ne)

/-- The first instruction starts a block, and no instruction comes before it. -/
theorem exists_first_leader (h : code.Regular) :
    ∃ x ∈ code.leaders, ∀ i ∈ code.instructions, x ≤ i.offset := by
  obtain ⟨first, rest, heq⟩ := List.exists_cons_of_ne_nil h.nonempty
  have asc := h.ascending
  rw [heq] at asc
  refine ⟨first.offset, ?_, ?_⟩
  · rw [mem_leaders]
    simp [offsets, leaderCandidates, heq]
  · intro i hi
    rw [heq] at hi
    rcases List.mem_cons.1 hi with rfl | hmem
    · exact le_rfl
    · exact (List.rel_of_pairwise_cons asc hmem).le

theorem leaders_ne_nil_of_mem {i : Instruction} (hi : i ∈ code.instructions) :
    code.leaders ≠ [] := by
  obtain ⟨first, rest, heq⟩ := List.exists_cons_of_ne_nil (List.ne_nil_of_mem hi)
  have leader : first.offset ∈ code.leaders := by
    simp [mem_leaders, offsets, leaderCandidates, heq]
  exact List.ne_nil_of_mem leader

theorem leaders_ne_nil (h : code.Regular) : code.leaders ≠ [] :=
  have ⟨_, hi⟩ := List.exists_mem_of_ne_nil _ h.nonempty
  leaders_ne_nil_of_mem hi

/-- The leaders up to the block of an instruction are those at or before it. -/
theorem leader_le_iff (h : code.Regular) {m : Nat} (hm : m < code.leaders.length)
    {i : Instruction} (hi : i ∈ code.instructions) :
    code.leaders[m] ≤ i.offset ↔ m ≤ blockIndex code.leaders i.offset :=
  have ⟨_, hx, hle⟩ := exists_first_leader h
  getElem_le_iff code.pairwise_leaders hm hx (hle i hi)

/-- The runs, one after the other, are the instructions. -/
theorem Ascending.flatten_groups (h : code.Ascending) :
    code.groups.flatten = code.instructions := by
  refine flatten_filter_range (fun i => blockIndex code.leaders i.offset)
    (h.imp fun hlt => blockIndex_mono _ hlt.le) fun i hi => ?_
  exact blockIndex_lt (leaders_ne_nil_of_mem hi) _

theorem flatten_groups (h : code.Regular) : code.groups.flatten = code.instructions :=
  Ascending.flatten_groups h.ascending

/-- A run starts with the instruction at the leader of its number. -/
theorem group_eq_cons (h : code.Regular) {n : Nat} {group : List Instruction}
    (hg : code.groups[n]? = some group) :
    ∃ first rest, group = first :: rest ∧ code.leaders[n]? = some first.offset := by
  have hn : n < code.leaders.length := by
    rw [← length_groups]
    exact (List.getElem?_eq_some_iff.1 hg).1
  obtain ⟨j, hj, hoff⟩ := List.mem_map.1 (mem_leaders.1 (List.getElem_mem hn)).1
  have hmem : j ∈ group :=
    (mem_group_iff hg).2 ⟨hj, by rw [hoff, blockIndex_getElem code.pairwise_leaders]⟩
  obtain ⟨first, rest, rfl⟩ := List.exists_cons_of_ne_nil (List.ne_nil_of_mem hmem)
  refine ⟨first, rest, rfl, ?_⟩
  obtain ⟨hfirst, hblock⟩ := (mem_group_iff hg).1 List.mem_cons_self
  have low : code.leaders[n] ≤ first.offset := (leader_le_iff h hn hfirst).2 hblock.ge
  have high : first.offset ≤ j.offset := by
    rcases List.mem_cons.1 hmem with rfl | hrest
    · exact le_rfl
    · exact (List.rel_of_pairwise_cons (h.ascending.sublist (group_sublist hg)) hrest).le
  rw [List.getElem?_eq_getElem hn, Option.some_inj]
  omega

theorem offset_lt_of_getElem? (h : code.Ascending) {n : Nat} {group : List Instruction}
    (hg : code.groups[n]? = some group) {k m : Nat} {i j : Instruction} (hi : group[k]? = some i)
    (hj : group[m]? = some j) (hlt : k < m) : i.offset < j.offset := by
  obtain ⟨hk, rfl⟩ := List.getElem?_eq_some_iff.1 hi
  obtain ⟨hm, rfl⟩ := List.getElem?_eq_some_iff.1 hj
  exact List.pairwise_iff_getElem.1 (h.sublist (group_sublist hg)) k m hk hm hlt

/-- Of the instructions of a run only the first one is at a leader. -/
theorem mem_leaders_iff_of_group (h : code.Regular) {n : Nat} {group : List Instruction}
    (hg : code.groups[n]? = some group) {k : Nat} {i : Instruction} (hi : group[k]? = some i) :
    i.offset ∈ code.leaders ↔ k = 0 := by
  obtain ⟨first, rest, rfl, hfirst⟩ := group_eq_cons h hg
  constructor
  · intro hmem
    obtain ⟨m, hm, heq⟩ := List.getElem_of_mem hmem
    have hblock := ((mem_group_iff hg).1 (List.mem_of_getElem? hi)).2
    rw [← heq, blockIndex_getElem code.pairwise_leaders] at hblock
    subst hblock
    rw [List.getElem?_eq_getElem hm, heq, Option.some_inj] at hfirst
    by_contra hk
    have := offset_lt_of_getElem? h.ascending hg (k := 0) rfl hi (by omega)
    omega
  · rintro rfl
    obtain rfl : first = i := by simpa using hi
    exact List.mem_of_getElem? hfirst

/-- After the last instruction of the last run there is no other. -/
theorem not_neighbours_of_last (h : code.Regular) {n : Nat} {group : List Instruction}
    (hg : code.groups[n]? = some group) {k : Nat} {i : Instruction} (hi : group[k]? = some i)
    (hk : k + 1 = group.length) (hnext : code.groups[n + 1]? = none) (j : Instruction) :
    ¬[i, j] <:+: code.instructions := by
  intro hij
  have hlt := offset_lt_of_neighbours h hij
  have hj : j ∈ code.instructions := hij.subset (by simp)
  have hblock := ((mem_group_iff hg).1 (List.mem_of_getElem? hi)).2
  have hle : n ≤ blockIndex code.leaders j.offset :=
    hblock ▸ blockIndex_mono code.leaders hlt.le
  have hlen := blockIndex_lt (leaders_ne_nil h) j.offset
  have hcount := List.getElem?_eq_none_iff.1 hnext
  rw [length_groups] at hcount
  -- so `j` is in the same run, where nothing comes after `i`
  obtain ⟨m, hm⟩ := List.getElem?_of_mem ((mem_group_iff hg).2 ⟨hj, by omega⟩)
  have hml := (List.getElem?_eq_some_iff.1 hm).1
  rcases Nat.lt_or_eq_of_le (show m ≤ k by omega) with hmk | rfl
  · have := offset_lt_of_getElem? h.ascending hg hm hi hmk
    omega
  · rw [Option.some_inj.1 (hi.symm.trans hm)] at hlt
    omega

/-- What comes after an instruction is the next one of its run or, after the last one, the first
one of the next run. -/
theorem neighbours_iff_of_group (h : code.Regular) {n : Nat} {group : List Instruction}
    (hg : code.groups[n]? = some group) {k : Nat} {i j : Instruction} (hi : group[k]? = some i) :
    [i, j] <:+: code.instructions ↔
      group[k + 1]? = some j ∨
        k + 1 = group.length ∧ ∃ rest, code.groups[n + 1]? = some (j :: rest) := by
  have nodup : code.instructions.Nodup := h.ascending.imp fun hlt heq => by simp [heq] at hlt
  have inside {j : Instruction} (hj : group[k + 1]? = some j) : [i, j] <:+: code.instructions := by
    rw [← flatten_groups h]
    exact (neighbours_iff.2 ⟨k, hi, hj⟩).trans
      (List.infix_of_mem_flatten (List.mem_of_getElem? hg))
  have across {j : Instruction} {rest : List Instruction} (hk : k + 1 = group.length)
      (hj : code.groups[n + 1]? = some (j :: rest)) : [i, j] <:+: code.instructions := by
    obtain ⟨pre, post, heq⟩ := neighbours_iff.2 ⟨n, hg, hj⟩
    have hlast : group.getLast? = some i := by rw [List.getLast?_eq_getElem?, ← hk]; exact hi
    obtain ⟨init, rfl⟩ := List.getLast?_eq_some_iff.1 hlast
    rw [← flatten_groups h, ← heq]
    exact ⟨pre.flatten ++ init, rest ++ post.flatten, by simp⟩
  constructor
  · intro hij
    have hk := (List.getElem?_eq_some_iff.1 hi).1
    rcases Nat.lt_or_eq_of_le (Nat.succ_le_of_lt hk) with hlt | hend
    · have hj := List.getElem?_eq_getElem hlt
      rw [neighbours_unique nodup hij (inside hj)]
      exact .inl hj
    · refine .inr ⟨hend, ?_⟩
      cases hnext : code.groups[n + 1]? with
      | some next =>
        obtain ⟨first, rest, rfl, -⟩ := group_eq_cons h hnext
        rw [neighbours_unique nodup hij (across hend hnext)]
        exact ⟨rest, rfl⟩
      | none => exact absurd hij (not_neighbours_of_last h hg hi hend hnext j)
  · rintro (hj | ⟨hk, rest, hj⟩)
    · exact inside hj
    · exact across hk hj

/-- Control does not leave a run in its middle. -/
theorem not_endsRun_of_next (h : code.Regular) {n : Nat} {group : List Instruction}
    (hg : code.groups[n]? = some group) {k : Nat} {i j : Instruction} (hi : group[k]? = some i)
    (hj : group[k + 1]? = some j) : ¬code.endsRun i := by
  intro hends
  have hij : [i, j] <:+: code.instructions := (neighbours_iff_of_group h hg hi).2 (.inl hj)
  have hcand : j.offset ∈ code.leaderCandidates := by
    simp only [leaderCandidates, List.mem_append, mem_offsetsAfterRuns]
    exact .inl (.inr ⟨i, j, hij, hends, rfl⟩)
  have hleader : j.offset ∈ code.leaders :=
    mem_leaders.2 ⟨List.mem_map_of_mem (hij.subset (by simp)), hcand⟩
  have := (mem_leaders_iff_of_group h hg hj).1 hleader
  omega

/-- Every instruction is in a run. -/
theorem exists_group (h : code.Regular) {i : Instruction} (hi : i ∈ code.instructions) :
    ∃ (n : Nat) (group : List Instruction) (k : Nat),
      code.groups[n]? = some group ∧ group[k]? = some i := by
  rw [← flatten_groups h, List.mem_flatten] at hi
  obtain ⟨group, hg, hi⟩ := hi
  obtain ⟨n, hn⟩ := List.getElem?_of_mem hg
  obtain ⟨k, hk⟩ := List.getElem?_of_mem hi
  exact ⟨n, group, k, hn, hk⟩

end Code

end TraceLens.Bytecode
