import Mathlib.Data.List.Forall2
import TraceLens.Proofs.Bytecode.Endings
import TraceLens.Proofs.Bytecode.Spans
import TraceLens.Proofs.Traversal

/-!
# Places of instructions

The graph of a code puts each instruction at a place: the number of its run, and its index there.
-/

namespace TraceLens

/-- The strict order of places: by block, then by statement. -/
def Location.Before (l m : Location) : Prop :=
  l.block < m.block ∨ l.block = m.block ∧ l.statement < m.statement

namespace Bytecode

namespace Code

variable {code : Code}

/-- The instructions of a run that become statements. -/
def shown (code : Code) (n : Nat) (group : List Instruction) : List Instruction :=
  if (code.ownEnding? n group).isSome then group.dropLast else group

/-- Block `n` as it is made from a run. -/
structure Makes (code : Code) (origin : Origin) (n : Nat) (group : List Instruction)
    (block : Block) : Prop where
  ending : block.terminator.ending = code.endingOf n group
  span : ∀ last ∈ group.getLast?, origin.spanOf last = .ok block.terminator.span
  statements : List.Forall₂
    (fun i s => origin.spanOf i = .ok s.span ∧ s.text = i.text ∧ s.hidden = i.isHidden)
    (code.shown n group) block.statements

/-- The places of a run's instructions. -/
def placesOf (n : Nat) (group : List Instruction) : List (Int × Location) :=
  group.zipIdx.map fun (i, k) => (i.offset, ⟨(n : Int), (k : Int)⟩)

theorem makes_of_codeBlock {origin : Origin} {n : Nat} {group : List Instruction} {b : CodeBlock}
    (h : code.codeBlock code.leaders origin n group = .ok b) :
    code.Makes origin n group b.block ∧ b.locations = placesOf n group := by
  unfold codeBlock at h
  cases hlast : group.getLast? with
  | none => simp [hlast] at h
  | some last =>
    simp only [hlast, bind_eq_ok_iff, pure_eq_ok_iff] at h
    obtain ⟨span, hspan, statements, hstatements, rfl⟩ := h
    have hown : code.ownEnding? n group = code.ending? code.leaders n last := by
      simp [ownEnding?, hlast]
    refine ⟨⟨?_, ?_, ?_⟩, ?_⟩
    · simp [endingOf, hown]
    · intro last' hlast'
      obtain rfl : last = last' := by simpa [hlast] using hlast'
      exact hspan
    · rw [mapM_eq_ok_iff] at hstatements
      simp only [shown, hown]
      refine hstatements.imp fun i s hs => ?_
      simp only [bind_eq_ok_iff, pure_eq_ok_iff] at hs
      obtain ⟨span, hspan, rfl⟩ := hs
      exact ⟨hspan, rfl, rfl⟩
    · simp [CodeBlock.locations, placesOf]

theorem exists_codeBlock {origin : Origin} (n : Nat) {group : List Instruction} (hne : group ≠ [])
    (h : ∀ i ∈ group, ∃ s, origin.spanOf i = .ok s) :
    ∃ b, code.codeBlock code.leaders origin n group = .ok b := by
  obtain ⟨last, hlast⟩ := Option.ne_none_iff_exists'.1 (mt List.getLast?_eq_none_iff.1 hne)
  simp only [codeBlock, hlast]
  refine exists_bind_eq_ok (h last (List.mem_of_getLast? hlast)) fun span _ => ?_
  refine exists_bind_eq_ok (exists_mapM_eq_ok fun i hi => ?_) fun statements _ => ⟨_, rfl⟩
  have hi : i ∈ group := by
    split at hi
    · exact List.mem_of_mem_dropLast hi
    · exact hi
  exact exists_bind_eq_ok (h i hi) fun s _ => ⟨_, rfl⟩

end Code

/-! ## The graph -/

namespace Code

variable {code : Code}

/-- Instruction `i` stands at place `l`: in the run that the place names, at its index. -/
def PlacedAt (code : Code) (i : Instruction) (l : Location) : Prop :=
  ∃ (n : Nat) (group : List Instruction) (k : Nat),
    code.groups[n]? = some group ∧ group[k]? = some i ∧ l = ⟨n, k⟩

/-- The places of all instructions, run by run. -/
def allPlaces (code : Code) : List (Int × Location) :=
  code.groups.zipIdx.flatMap fun (group, n) => placesOf n group

theorem map_fst_placesOf (n : Nat) (group : List Instruction) :
    (placesOf n group).map Prod.fst = group.map Instruction.offset := by
  calc (placesOf n group).map Prod.fst
      = (group.zipIdx.map Prod.fst).map Instruction.offset := by
        simp only [placesOf, List.map_map]
        rfl
    _ = group.map Instruction.offset := by rw [List.zipIdx_map_fst]

/-- Each offset has one place, and the places stand in the order of the instructions. -/
theorem map_fst_allPlaces (h : code.Ascending) : code.allPlaces.map Prod.fst = code.offsets := by
  calc code.allPlaces.map Prod.fst
      = (code.groups.zipIdx.map Prod.fst).flatMap (List.map Instruction.offset) := by
        simp only [allPlaces, List.map_flatMap, map_fst_placesOf, List.flatMap_map]
    _ = code.groups.flatten.map Instruction.offset := by
        rw [List.zipIdx_map_fst, List.map_flatten, List.flatMap_def]
    _ = code.offsets := by rw [h.flatten_groups]; rfl

theorem mem_allPlaces {offset : Int} {l : Location} :
    (offset, l) ∈ code.allPlaces ↔ ∃ i, code.PlacedAt i l ∧ i.offset = offset := by
  simp only [allPlaces, placesOf, List.mem_flatMap, Prod.exists, List.mk_mem_zipIdx_iff_getElem?,
    List.mem_map, Prod.mk.injEq, PlacedAt]
  constructor
  · rintro ⟨group, n, hg, i, k, hi, rfl, rfl⟩
    exact ⟨i, ⟨n, group, k, hg, hi, rfl⟩, rfl⟩
  · rintro ⟨i, ⟨n, group, k, hg, hi, rfl⟩, rfl⟩
    exact ⟨group, n, hg, i, k, hi, rfl, rfl⟩

end Code

/-- What the graph of a code holds: each instruction at its place, and each block as it is made
from its run. -/
structure CodeGraph.Shows (g : CodeGraph) (code : Code) (origin : Origin) (length : Nat) :
    Prop where
  entries : g.locations.entries = code.allPlaces
  blocks : List.Forall₂ (fun p b => code.Makes origin p.2 p.1 b) code.groups.zipIdx g.body.blocks
  span : g.body.span = code.wholeSpan origin length g.body.blocks

/-- Whatever the offsets and lines of a code are, its graph has a block made from each run and the
places of all instructions. -/
theorem made_of_codeGraph {code : Code} {source file : String} {g : CodeGraph}
    (hg : codeGraph code source file = .ok g) :
    ∃ origin, code.origin source file = .ok origin ∧ code.instructions ≠ [] ∧
      g.locations = .ofList code.allPlaces ∧
      List.Forall₂ (fun p b => code.Makes origin p.2 p.1 b) code.groups.zipIdx g.body.blocks ∧
      g.body.span = code.wholeSpan origin source.length g.body.blocks := by
  obtain ⟨origin, horigin, hg⟩ := bind_eq_ok_iff.1 hg
  split at hg
  · exact absurd hg (by simp [bind, Except.bind])
  · rename_i nonempty
    obtain ⟨blocks, hblocks, hg⟩ := bind_eq_ok_iff.1 hg
    obtain rfl := pure_eq_ok_iff.1 hg
    have made : List.Forall₂
        (fun p b => code.Makes origin p.2 p.1 b.block ∧ b.locations = Code.placesOf p.2 p.1)
        code.groups.zipIdx blocks :=
      (mapM_eq_ok_iff.1 hblocks).imp fun _ _ hb => Code.makes_of_codeBlock hb
    have places : blocks.flatMap CodeBlock.locations = code.allPlaces := by
      rw [Code.allPlaces, List.flatMap_def, List.flatMap_def]
      congr 1
      rw [← List.forall₂_eq_eq_eq, List.forall₂_map_left_iff, List.forall₂_map_right_iff]
      exact made.flip.imp fun _ _ hb => hb.2
    refine ⟨origin, horigin, by simpa using nonempty, ?_, ?_, rfl⟩
    · simp only [Code.graphOf, places]
    · simp only [Code.graphOf]
      exact List.forall₂_map_right_iff.2 (made.imp fun _ _ hb => hb.1)

theorem shows_of_ascending {code : Code} (h : code.Ascending) {source file : String}
    {g : CodeGraph} (hg : codeGraph code source file = .ok g) :
    ∃ origin, code.origin source file = .ok origin ∧ g.Shows code origin source.length := by
  obtain ⟨origin, horigin, -, locations, blocks, span⟩ := made_of_codeGraph hg
  refine ⟨origin, horigin, ⟨?_, blocks, span⟩⟩
  rw [locations]
  exact Table.entries_ofList (by rw [Code.map_fst_allPlaces h]; exact Code.nodup_offsets h)

theorem shows_of_codeGraph {code : Code} (h : code.Regular) {source file : String} {g : CodeGraph}
    (hg : codeGraph code source file = .ok g) :
    ∃ origin, code.origin source file = .ok origin ∧ g.Shows code origin source.length :=
  shows_of_ascending h.ascending hg

theorem exists_codeGraph {code : Code} (h : code.Regular) (source file : String) :
    ∃ g, codeGraph code source file = .ok g := by
  obtain ⟨origin, horigin, -⟩ := Code.exists_origin h source file
  refine exists_bind_eq_ok ⟨origin, horigin⟩ fun origin horigin => ?_
  have hof := (Code.of_origin h horigin).1
  rw [if_neg (by simpa using h.nonempty)]
  refine exists_bind_eq_ok (exists_mapM_eq_ok fun p hp => ?_) fun blocks _ => ⟨_, rfl⟩
  obtain ⟨group, n⟩ := p
  have hg : code.groups[n]? = some group := List.mk_mem_zipIdx_iff_getElem?.1 hp
  refine Code.exists_codeBlock n ?_ fun i hi => ?_
  · obtain ⟨first, rest, rfl, -⟩ := Code.group_eq_cons h hg
    exact List.cons_ne_nil _ _
  · obtain ⟨s, hs, -⟩ := Origin.exists_spanOf hof (h.lines i ((Code.mem_group_iff hg).1 hi).1)
    exact ⟨s, hs⟩

/-! ## Reading the graph -/

namespace Code

variable {code : Code} {origin : Origin}

theorem Makes.length_statements {n : Nat} {group : List Instruction} {b : Block}
    (hb : code.Makes origin n group b) :
    b.statements.length + (if (code.ownEnding? n group).isSome then 1 else 0) = group.length := by
  rw [← hb.statements.length_eq, shown]
  split
  · rename_i hown
    have : group ≠ [] := by rintro rfl; simp [ownEnding?] at hown
    have := List.length_pos_iff.2 this
    rw [List.length_dropLast]
    omega
  · rfl

theorem getElem?_of_shown {n : Nat} {group : List Instruction} {k : Nat} {i : Instruction}
    (hi : (code.shown n group)[k]? = some i) : group[k]? = some i := by
  have front : code.shown n group <+: group := by
    unfold shown
    split
    · exact List.dropLast_prefix group
    · exact List.prefix_rfl
  obtain ⟨rest, heq⟩ := front
  rw [← heq, List.getElem?_append_left (List.getElem?_eq_some_iff.1 hi).1]
  exact hi

/-- A block made from a run has the source of each instruction of the run at its index. -/
theorem Makes.exists_spanAt {body : Body} {n : Nat} {group : List Instruction} {b : Block}
    (made : code.Makes origin n group b) (hb : body.blocks[n]? = some b) {k : Nat} {i : Instruction}
    (hk : group[k]? = some i) :
    ∃ s, body.spanAt ⟨n, k⟩ = .ok s ∧ origin.spanOf i = .ok s := by
  have hlen := made.length_statements
  have hkl := (List.getElem?_eq_some_iff.1 hk).1
  by_cases hstatement : k < b.statements.length
  · have hget := List.getElem?_eq_getElem hstatement
    obtain ⟨j, hj, hspan, -⟩ := exists_getElem?_left made.statements hget
    obtain rfl : i = j := Option.some_inj.1 (hk.symm.trans (getElem?_of_shown hj))
    exact ⟨_, Body.spanAt_statement hb hget, hspan⟩
  · -- the instruction is the one that ends the block
    obtain rfl : k = b.statements.length := by split at hlen <;> omega
    have hlast : group.getLast? = some i := by
      rw [List.getLast?_eq_getElem?, ← hk]
      congr 1
      split at hlen <;> omega
    exact ⟨_, Body.spanAt_terminator hb, made.span i hlast⟩

/-- The place of an instruction has the source of the instruction. -/
theorem PlacedAt.exists_spanAt {body : Body} {i : Instruction} {l : Location}
    (hi : code.PlacedAt i l)
    (blocks : List.Forall₂ (fun p b => code.Makes origin p.2 p.1 b) code.groups.zipIdx
      body.blocks) :
    ∃ s, body.spanAt l = .ok s ∧ origin.spanOf i = .ok s := by
  obtain ⟨n, group, k, hg, hk, rfl⟩ := hi
  have numbered : code.groups.zipIdx[n]? = some (group, n) := by simp [hg]
  obtain ⟨b, hb, made⟩ := exists_getElem?_right blocks numbered
  exact made.exists_spanAt hb hk

theorem PlacedAt.mem {i : Instruction} {l : Location} (hi : code.PlacedAt i l) :
    i ∈ code.instructions := by
  obtain ⟨n, group, k, hg, hk, -⟩ := hi
  exact ((mem_group_iff hg).1 (List.mem_of_getElem? hk)).1

/-- At a place there is one instruction. -/
theorem PlacedAt.unique {i j : Instruction} {l : Location} (hi : code.PlacedAt i l)
    (hj : code.PlacedAt j l) : i = j := by
  obtain ⟨n, group, k, hg, hk, rfl⟩ := hi
  obtain ⟨n', group', k', hg', hk', heq⟩ := hj
  simp only [Location.mk.injEq, Int.natCast_inj] at heq
  obtain ⟨rfl, rfl⟩ := heq
  obtain rfl : group = group' := Option.some_inj.1 (hg.symm.trans hg')
  exact Option.some_inj.1 (hk.symm.trans hk')

/-- Every instruction has a place, whatever the offsets are. -/
theorem exists_placedAt_of_mem {i : Instruction} (hi : i ∈ code.instructions) :
    ∃ l, code.PlacedAt i l := by
  have index := blockIndex_lt (leaders_ne_nil_of_mem hi) i.offset
  rw [← length_groups] at index
  have hg := List.getElem?_eq_getElem index
  obtain ⟨k, hk⟩ := List.getElem?_of_mem ((mem_group_iff hg).2 ⟨hi, rfl⟩)
  exact ⟨_, _, _, k, hg, hk, rfl⟩

theorem exists_placedAt (h : code.Regular) {i : Instruction} (hi : i ∈ code.instructions) :
    ∃ l, code.PlacedAt i l := by
  obtain ⟨n, group, k, hg, hk⟩ := exists_group h hi
  exact ⟨_, n, group, k, hg, hk, rfl⟩

/-- Places follow the order of the offsets, by run and then within it. -/
theorem PlacedAt.before_of_ascending (h : code.Ascending) {i j : Instruction} {l m : Location}
    (hi : code.PlacedAt i l) (hj : code.PlacedAt j m) (hlt : i.offset < j.offset) :
    l.Before m := by
  obtain ⟨n, group, k, hg, hk, rfl⟩ := hi
  obtain ⟨n', group', k', hg', hk', rfl⟩ := hj
  have hn := ((mem_group_iff hg).1 (List.mem_of_getElem? hk)).2
  have hn' := ((mem_group_iff hg').1 (List.mem_of_getElem? hk')).2
  have hle : n ≤ n' := hn ▸ hn' ▸ blockIndex_mono code.leaders hlt.le
  rcases Nat.lt_or_eq_of_le hle with hblock | rfl
  · exact .inl (by simpa using hblock)
  · obtain rfl : group = group' := Option.some_inj.1 (hg.symm.trans hg')
    refine .inr ⟨rfl, ?_⟩
    by_contra hge
    rcases Nat.lt_or_eq_of_le (show k' ≤ k by simpa using hge) with hlt' | rfl
    · have := offset_lt_of_getElem? h hg hk' hk hlt'
      omega
    · rw [Option.some_inj.1 (hk.symm.trans hk')] at hlt
      omega

theorem PlacedAt.before (h : code.Regular) {i j : Instruction} {l m : Location}
    (hi : code.PlacedAt i l) (hj : code.PlacedAt j m) (hlt : i.offset < j.offset) :
    l.Before m :=
  hi.before_of_ascending h.ascending hj hlt

end Code

namespace CodeGraph.Shows

variable {g : CodeGraph} {code : Code} {origin : Origin} {length : Nat}

theorem keys_eq (hs : g.Shows code origin length) (h : code.Regular) :
    g.locations.keys = code.offsets := by
  rw [Table.keys, hs.entries, Code.map_fst_allPlaces h.ascending]

theorem find?_eq_some_iff_of_ascending (hs : g.Shows code origin length) (h : code.Ascending)
    {offset : Int} {l : Location} :
    g.locations.find? offset = some l ↔ ∃ i, code.PlacedAt i l ∧ i.offset = offset := by
  have nodup : g.locations.keys.Nodup := by
    rw [Table.keys, hs.entries, Code.map_fst_allPlaces h]
    exact Code.nodup_offsets h
  rw [Table.find?_eq_some_iff nodup, hs.entries, Code.mem_allPlaces]

theorem find?_eq_some_iff (hs : g.Shows code origin length) (h : code.Regular) {offset : Int}
    {l : Location} :
    g.locations.find? offset = some l ↔ ∃ i, code.PlacedAt i l ∧ i.offset = offset :=
  hs.find?_eq_some_iff_of_ascending h.ascending

/-- The table of places gives an instruction its own place. -/
theorem find?_offset_eq_some_iff (hs : g.Shows code origin length) (h : code.Ascending)
    {i : Instruction} (hi : i ∈ code.instructions) {l : Location} :
    g.locations.find? i.offset = some l ↔ code.PlacedAt i l := by
  rw [hs.find?_eq_some_iff_of_ascending h]
  refine ⟨?_, fun hl => ⟨i, hl, rfl⟩⟩
  rintro ⟨j, hj, heq⟩
  obtain rfl : j = i := List.inj_on_of_nodup_map (Code.nodup_offsets h) hj.mem hi heq
  exact hj

theorem mem_values_iff (hs : g.Shows code origin length) {l : Location} :
    l ∈ g.locations.values ↔ ∃ i, code.PlacedAt i l := by
  simp [Table.values, hs.entries, Code.mem_allPlaces]

theorem length_blocks (hs : g.Shows code origin length) :
    g.body.blocks.length = code.leaders.length := by
  rw [← hs.blocks.length_eq, List.length_zipIdx, Code.length_groups]

theorem exists_block (hs : g.Shows code origin length) {n : Nat} {group : List Instruction}
    (hg : code.groups[n]? = some group) :
    ∃ b, g.body.blocks[n]? = some b ∧ code.Makes origin n group b :=
  exists_getElem?_right hs.blocks (x := (group, n)) (by simp [hg])

theorem makes (hs : g.Shows code origin length) {n : Nat} {group : List Instruction} {b : Block}
    (hg : code.groups[n]? = some group) (hb : g.body.blocks[n]? = some b) :
    code.Makes origin n group b := by
  obtain ⟨b', hb', hmade⟩ := hs.exists_block hg
  obtain rfl : b = b' := Option.some_inj.1 (hb.symm.trans hb')
  exact hmade

theorem exists_group (hs : g.Shows code origin length) {n : Nat} {b : Block}
    (hb : g.body.blocks[n]? = some b) :
    ∃ group, code.groups[n]? = some group ∧ code.Makes origin n group b := by
  obtain ⟨⟨group, m⟩, hget, hmade⟩ := exists_getElem?_left hs.blocks hb
  obtain ⟨hg, rfl⟩ : code.groups[n]? = some group ∧ m = n := by
    simpa [eq_comm, and_comm] using hget
  exact ⟨group, hg, hmade⟩

/-- The source of a place is the source of the instruction that stands there. -/
theorem spanAt_eq (hs : g.Shows code origin length) {i : Instruction} {l : Location}
    (hi : code.PlacedAt i l) : g.body.spanAt l = origin.spanOf i := by
  obtain ⟨s, hplace, hspan⟩ := hi.exists_spanAt hs.blocks
  rw [hplace, hspan]

end CodeGraph.Shows

end Bytecode

end TraceLens
