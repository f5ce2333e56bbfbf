import Mathlib.Data.Set.Card
import Mathlib.Order.Bounds.Basic
import TraceLens.Proofs.Bytecode.LineStarts
import TraceLens.Proofs.Bytecode.Sources

/-!
# Looking up offsets and lines

A graph is asked for the place of an offset and for the places where lines start. An offset between
instructions belongs to the one before it, so that later offsets never lead to earlier places. A
line starts at its first visible instruction, and different lines start at different places.

Main statements: `locationFor_floor` and `breakpointsForLines_firstOn`.
-/

namespace TraceLens.Bytecode

/-! ## Offsets -/

/-- The instruction that an offset belongs to: the last one at or before it or, where there is none,
the first one of all. -/
inductive Code.Covers (code : Code) (offset : Int) (i : Instruction) : Prop
  | last (mem : i ∈ code.instructions) (before : i.offset ≤ offset)
      (last : ∀ j ∈ code.instructions, j.offset ≤ offset → j.offset ≤ i.offset)
  | first (mem : i ∈ code.instructions) (after : ∀ j ∈ code.instructions, offset < j.offset)
      (first : ∀ j ∈ code.instructions, i.offset ≤ j.offset)

theorem Code.Covers.mono {code : Code} {a b : Int} {i j : Instruction} (hi : code.Covers a i)
    (hj : code.Covers b j) (hab : a ≤ b) : i.offset ≤ j.offset := by
  cases hi with
  | last hi hle _ =>
    cases hj with
    | last _ _ greatest => exact greatest i hi (hle.trans hab)
    | first _ after _ =>
      have := after i hi
      omega
  | first _ _ least =>
    cases hj with
    | last hj _ _ => exact least j hj
    | first hj _ _ => exact least j hj

section Sorted

variable {keys : List Int} {offset key : Int}

theorem isGreatest_of_getLast? (sorted : keys.Pairwise (· ≤ ·))
    (h : (keys.filter (· ≤ offset)).getLast? = some key) :
    IsGreatest {k | k ∈ keys ∧ k ≤ offset} key := by
  obtain ⟨front, heq⟩ := List.getLast?_eq_some_iff.1 h
  have mem (k : Int) : k ∈ front ++ [key] ↔ k ∈ keys ∧ k ≤ offset := by
    rw [← heq, List.mem_filter, decide_eq_true_eq]
  have sorted := sorted.filter (· ≤ offset)
  rw [heq, List.pairwise_append] at sorted
  refine ⟨(mem key).1 (by simp), fun k hk => ?_⟩
  rcases List.mem_append.1 ((mem k).2 hk) with earlier | same
  · exact sorted.2.2 k earlier key List.mem_cons_self
  · exact (List.mem_singleton.1 same).le

theorem isLeast_of_head? (sorted : keys.Pairwise (· ≤ ·)) (h : keys.head? = some key) :
    IsLeast {k | k ∈ keys} key := by
  obtain ⟨rest, rfl⟩ := List.head?_eq_some_iff.1 h
  refine ⟨List.mem_cons_self, fun k hk => ?_⟩
  rcases List.mem_cons.1 hk with rfl | later
  · exact le_rfl
  · exact List.rel_of_pairwise_cons sorted later

end Sorted

namespace CodeGraph

variable {g : CodeGraph} {offset : Int} {l : Location}

/-- An offset has the place of the greatest key at or before it or, without one, of the least. -/
theorem exists_key_of_locationFor (h : g.locationFor offset = .ok l) :
    ∃ key, g.locations.find? key = some l ∧
      (IsGreatest {k | k ∈ g.locations.keys ∧ k ≤ offset} key ∨
        (∀ k ∈ g.locations.keys, offset < k) ∧ IsLeast {k | k ∈ g.locations.keys} key) := by
  have sorted : g.locations.keys.mergeSort.Pairwise (· ≤ ·) := List.pairwise_mergeSort' (· ≤ ·) _
  have mem (k : Int) : k ∈ g.locations.keys.mergeSort ↔ k ∈ g.locations.keys :=
    List.mem_mergeSort
  simp only [locationFor] at h
  split at h
  · rename_i found hfound
    obtain rfl := Except.ok.inj h
    obtain ⟨key, hkey, hfind⟩ := Option.bind_eq_some_iff.1 hfound
    refine ⟨key, hfind, ?_⟩
    rcases Option.or_eq_some_iff.1 hkey with floor | ⟨none, least⟩
    · have greatest := isGreatest_of_getLast? sorted floor
      simp only [mem] at greatest
      exact .inl greatest
    · have least := isLeast_of_head? sorted least
      simp only [mem] at least
      refine .inr ⟨fun k hk => ?_, least⟩
      have := List.filter_eq_nil_iff.1 (List.getLast?_eq_none_iff.1 none) k ((mem k).2 hk)
      simpa using this
  · cases h

variable {code : Code} {source file : String}

/-- Every offset has the place of the instruction that it belongs to. -/
theorem exists_locationFor_covers (h : code.Ascending) (hg : codeGraph code source file = .ok g)
    (offset : Int) : ∃ i l, code.Covers offset i ∧ code.PlacedAt i l ∧
      g.locations.find? i.offset = some l ∧ g.locationFor offset = .ok l := by
  obtain ⟨origin, -, hs⟩ := shows_of_ascending h hg
  obtain ⟨l, hl⟩ := exists_locationFor_of_ne_nil (keys_ne_nil_of_codeGraph hg) offset
  obtain ⟨key, hkey, found⟩ := exists_key_of_locationFor hl
  obtain ⟨i, hi, rfl⟩ := (hs.find?_eq_some_iff_of_ascending h).1 hkey
  have keys : ∀ j ∈ code.instructions, j.offset ∈ g.locations.keys := by
    intro j hj
    rw [Table.keys, hs.entries, Code.map_fst_allPlaces h]
    exact List.mem_map_of_mem hj
  refine ⟨i, l, ?_, hi, hkey, hl⟩
  rcases found with ⟨⟨-, before⟩, greatest⟩ | ⟨after, -, least⟩
  · exact .last hi.mem before fun j hj hle => greatest ⟨keys j hj, hle⟩
  · exact .first hi.mem (fun j hj => after _ (keys j hj)) fun j hj => least (keys j hj)

/-- The places of offsets are those of the instructions that they belong to, and they never go back
as offsets go on. -/
theorem locationFor_floor {code : Code} (h : code.Ascending) {source file : String} {g : CodeGraph}
    (hg : codeGraph code source file = .ok g) :
    (∀ offset, ∃ i l, code.Covers offset i ∧ code.PlacedAt i l ∧
      g.locations.find? i.offset = some l ∧ g.locationFor offset = .ok l) ∧
    ∀ a b l m, a ≤ b → g.locationFor a = .ok l → g.locationFor b = .ok m →
      l = m ∨ l.Before m := by
  refine ⟨exists_locationFor_covers h hg, ?_⟩
  intro a b l m hab hl hm
  obtain ⟨i, l', covers, place, find, hl'⟩ := exists_locationFor_covers h hg a
  obtain ⟨j, m', covers', place', find', hm'⟩ := exists_locationFor_covers h hg b
  obtain rfl := Except.ok.inj (hl'.symm.trans hl)
  obtain rfl := Except.ok.inj (hm'.symm.trans hm)
  rcases (covers.mono covers' hab).lt_or_eq with hlt | heq
  · exact .inr (place.before_of_ascending h place' hlt)
  · rw [heq, find'] at find
    exact .inl (Option.some_inj.1 find).symm

theorem locationFor_floor_guardedLoop : guardedLoop.Ascending ∧
    ∃ g, codeGraph guardedLoop "while f(): pass" = .ok g ∧
      (∃ i l, guardedLoop.Covers (-5) i ∧ guardedLoop.PlacedAt i l ∧
        g.locations.find? i.offset = some l ∧ g.locationFor (-5) = .ok l) ∧
      ∀ l m, g.locationFor (-5) = .ok l → g.locationFor 7 = .ok m → l = m ∨ l.Before m := by
  have h : guardedLoop.Ascending := guardedLoop_regular.ascending
  obtain ⟨g, hg⟩ := exists_codeGraph guardedLoop_regular "while f(): pass" ""
  obtain ⟨floor, mono⟩ := locationFor_floor h hg
  exact ⟨h, g, hg, floor (-5), fun l m => mono (-5) 7 l m (by decide)⟩

end CodeGraph

/-! ## Lines -/

/-- A visible instruction that the positions give a line. -/
def Instruction.Shows (i : Instruction) (line : Int) : Prop :=
  i.name ∉ ["RESUME", "NOP", "CACHE", "EXTENDED_ARG"] ∧
    ∃ p, i.positions = some p ∧ p.line = some line

/-- The first visible instruction of a line. -/
structure Code.IsFirstOn (code : Code) (line : Int) (i : Instruction) : Prop where
  mem : i ∈ code.instructions
  shows : i.Shows line
  first : ∀ j ∈ code.instructions, j.Shows line → i.offset ≤ j.offset

theorem Instruction.Shows.unique {i : Instruction} {m n : Int} (hm : i.Shows m) (hn : i.Shows n) :
    m = n := by
  obtain ⟨-, p, hp, hm⟩ := hm
  obtain ⟨-, q, hq, hn⟩ := hn
  obtain rfl := Option.some.inj (hp.symm.trans hq)
  exact Option.some.inj (hm.symm.trans hn)

/-- Whether an instruction starts a line is read off its name and positions; no line is zero. -/
theorem Instruction.shows_iff {i : Instruction} {line : Int} (hline : line ≠ 0) :
    i.Shows line ↔ (!i.isHidden && i.line? = some line) = true := by
  have visible : i.isHidden = false ↔ i.name ∉ ["RESUME", "NOP", "CACHE", "EXTENDED_ARG"] := by
    rw [isHidden, ← Bool.not_eq_true, List.contains_iff_mem]
  have own : i.line? = some line ↔ ∃ p, i.positions = some p ∧ p.line = some line := by
    unfold line?
    cases i.positions with
    | none => simp
    | some p =>
      simp only [Option.filter_eq_some_iff, Option.some.injEq, exists_eq_left']
      exact and_iff_left (by simpa using hline)
  rw [Bool.and_eq_true, Bool.not_eq_true', decide_eq_true_eq, visible, own, Shows]

section FirstOn

variable {code : Code} {line : Int} {i j : Instruction}

theorem Code.IsFirstOn.unique (h : code.Ascending) (hi : code.IsFirstOn line i)
    (hj : code.IsFirstOn line j) : i = j :=
  List.inj_on_of_nodup_map (Code.nodup_offsets h) hi.mem hj.mem
    (le_antisymm (hi.first j hj.mem hj.shows) (hj.first i hi.mem hi.shows))

theorem Code.isFirstOn_of_firstOn? (h : code.Ascending) (hline : line ≠ 0)
    (hi : code.firstOn? line = some i) : code.IsFirstOn line i := by
  rw [firstOn?, List.find?_eq_some_iff_append] at hi
  obtain ⟨shows, before, after, split, hidden⟩ := hi
  rw [Ascending, split, List.pairwise_append] at h
  refine ⟨by simp [split], (Instruction.shows_iff hline).2 shows, fun j hj hshows => ?_⟩
  rw [split] at hj
  rcases List.mem_append.1 hj with earlier | later
  · have := hidden j earlier
    rw [(Instruction.shows_iff hline).1 hshows] at this
    cases this
  · rcases List.mem_cons.1 later with rfl | later
    · exact le_rfl
    · exact (List.rel_of_pairwise_cons h.2.1 later).le

/-- A search through the instructions finds the first one of a line. -/
theorem Code.firstOn?_eq_some_iff (h : code.Ascending) (hline : line ≠ 0) :
    code.firstOn? line = some i ↔ code.IsFirstOn line i := by
  refine ⟨isFirstOn_of_firstOn? h hline, fun hi => ?_⟩
  cases hfound : code.firstOn? line with
  | none =>
    have := List.find?_eq_none.1 hfound i hi.mem
    exact absurd ((Instruction.shows_iff hline).1 hi.shows) this
  | some j => rw [(isFirstOn_of_firstOn? h hline hfound).unique h hi]

end FirstOn

/-- Where a partial function never gives two items the same value, a list has as many values as it
has different items with one. -/
theorem length_distinct_filterMap {α β : Type} [DecidableEq β] {f : α → Option β}
    (apart : ∀ a b c, f a = some c → f b = some c → a = b) (xs : List α) :
    (distinct (xs.filterMap f)).length = {x | x ∈ xs ∧ (f x).isSome}.ncard := by
  rw [← List.toFinset_card_of_nodup (nodup_distinct _), ← Set.ncard_coe_finset]
  symm
  refine Set.ncard_congr (fun x hx => (f x).get hx.2) ?_ ?_ ?_
  · intro x hx
    rw [Finset.mem_coe, List.mem_toFinset, mem_distinct, List.mem_filterMap]
    exact ⟨x, hx.1, Option.eq_some_of_isSome hx.2⟩
  · intro a b ha hb heq
    exact apart a b _ (Option.some_get ha.2).symm (heq ▸ (Option.some_get hb.2).symm)
  · intro y hy
    obtain ⟨x, hx, hxy⟩ : ∃ x ∈ xs, f x = some y := by simpa using hy
    exact ⟨x, ⟨hx, by rw [hxy, Option.isSome_some]⟩, by simp [hxy]⟩

namespace CodeGraph

variable {code : Code} {source file : String} {g : CodeGraph}

/-- Different lines start at different places. -/
theorem eq_of_find?_lineStarts (h : code.Regular) (hg : codeGraph code source file = .ok g)
    {m n : Int} {l : Location} (hm : g.lineStarts.find? m = some l)
    (hn : g.lineStarts.find? n = some l) : m = n := by
  obtain ⟨i, hi, place⟩ := (find?_lineStarts_eq_some_iff h hg).1 hm
  obtain ⟨j, hj, place'⟩ := (find?_lineStarts_eq_some_iff h hg).1 hn
  obtain rfl := place.unique place'
  have hi := List.find?_some hi
  have hj := List.find?_some hj
  simp only [Bool.and_eq_true, decide_eq_true_eq] at hi hj
  exact Option.some.inj (hi.2.symm.trans hj.2)

/-- The lines that start somewhere are those with a visible instruction. -/
theorem isSome_find?_lineStarts_iff (h : code.Regular) (hg : codeGraph code source file = .ok g)
    {line : Int} (hline : line ≠ 0) :
    (g.lineStarts.find? line).isSome ↔ ∃ i, code.IsFirstOn line i := by
  simp only [Option.isSome_iff_exists, find?_lineStarts_eq_some_iff h hg,
    Code.firstOn?_eq_some_iff h.ascending hline]
  constructor
  · rintro ⟨l, i, hi, -⟩
    exact ⟨i, hi⟩
  · rintro ⟨i, hi⟩
    obtain ⟨l, hl⟩ := Code.exists_placedAt_of_mem hi.mem
    exact ⟨l, i, hi, hl⟩

theorem size_breakpointsForLines (h : code.Regular) (hg : codeGraph code source file = .ok g)
    (lines : List Int) : (g.breakpointsForLines lines).size =
      {n | n ∈ lines ∧ (g.lineStarts.find? n).isSome}.ncard :=
  length_distinct_filterMap (fun _ _ _ => eq_of_find?_lineStarts h hg) lines

/-- Breakpoints on lines are at the first visible instructions of the lines, one for each of the
lines that has such an instruction. -/
theorem breakpointsForLines_firstOn {code : Code} (h : code.Regular) (source file : String)
    {lines : List Int} (positive : ∀ n ∈ lines, 1 ≤ n) :
    ∃ g, codeGraph code source file = .ok g ∧
      (∀ l, l ∈ (g.breakpointsForLines lines).places ↔ ∃ n ∈ lines, ∃ i, code.IsFirstOn n i ∧
        code.PlacedAt i l ∧ g.locations.find? i.offset = some l) ∧
      (∀ m n i j l, code.IsFirstOn m i → code.IsFirstOn n j → g.locations.find? i.offset = some l →
        g.locations.find? j.offset = some l → m = n) ∧
      (g.breakpointsForLines lines).size =
        {n | n ∈ lines ∧ ∃ i, code.IsFirstOn n i}.ncard := by
  obtain ⟨g, hg⟩ := exists_codeGraph h source file
  obtain ⟨origin, -, hs⟩ := shows_of_codeGraph h hg
  have place {i : Instruction} {l : Location} (hi : i ∈ code.instructions) :
      g.locations.find? i.offset = some l ↔ code.PlacedAt i l :=
    hs.find?_offset_eq_some_iff h.ascending hi
  have nonzero {n : Int} (hn : n ∈ lines) : n ≠ 0 := by
    have := positive n hn
    omega
  refine ⟨g, hg, fun l => ?_, fun m n i j l hi hj hl hl' => ?_, ?_⟩
  · rw [mem_breakpointsForLines h hg]
    refine exists_congr fun n => and_congr_right fun hn => exists_congr fun i => ?_
    rw [Code.firstOn?_eq_some_iff h.ascending (nonzero hn)]
    exact and_congr_right fun hi => by rw [place hi.mem, and_self]
  · obtain rfl := ((place hi.mem).1 hl).unique ((place hj.mem).1 hl')
    exact hi.shows.unique hj.shows
  · rw [size_breakpointsForLines h hg]
    congr 1
    ext n
    exact and_congr_right fun hn => isSome_find?_lineStarts_iff h hg (nonzero hn)

theorem breakpointsForLines_firstOn_guardedLoop : guardedLoop.Regular ∧
    (∀ n ∈ [2, 9, 1, 2], (1 : Int) ≤ n) ∧
    ∃ g, codeGraph guardedLoop "while f(): pass" = .ok g ∧
      (g.breakpointsForLines [2, 9, 1, 2]).size =
        {n | n ∈ [2, 9, 1, 2] ∧ ∃ i, guardedLoop.IsFirstOn n i}.ncard := by
  have positive : ∀ n ∈ [2, 9, 1, 2], (1 : Int) ≤ n := by decide
  obtain ⟨g, hg, -, -, size⟩ :=
    breakpointsForLines_firstOn guardedLoop_regular "while f(): pass" "" positive
  exact ⟨guardedLoop_regular, positive, g, hg, size⟩

end CodeGraph

end TraceLens.Bytecode
