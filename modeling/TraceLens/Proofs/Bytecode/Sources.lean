import TraceLens.Proofs.Bytecode.Places
import TraceLens.Proofs.Table

/-!
# Positions and their sources

The source of a position is a region of the file of the code. Looking up an offset, whatever it is,
finds the place of an instruction. The source of every position that a run can be at lies in the
text.

Main statements: `isIn_of_spanOf` for any code, and `Shows.exists_spanOf`.
-/

namespace TraceLens

/-- A span of a file that was not expanded from anywhere. -/
structure Span.IsIn (s : Span) (file : String) : Prop where
  file_eq : s.file = file
  callSites_eq : s.callSites = []

theorem Span.IsIn.eq_ofRegion {s : Span} {file : String} (h : s.IsIn file) :
    s = .ofRegion s.toRegion := by
  obtain ⟨region, callSites⟩ := s
  obtain rfl : callSites = [] := h.callSites_eq
  rfl

/-- A source of a body is that of one of its statements or terminators, or of the whole. -/
theorem Body.isIn_of_spanOf {body : Body} {file : String} (whole : body.span.IsIn file)
    (blocks : ∀ b ∈ body.blocks, b.terminator.span.IsIn file ∧
      ∀ s ∈ b.statements, s.span.IsIn file)
    {position : Position} {span : Span} (h : body.spanOf position = .ok span) :
    span.IsIn file := by
  cases position with
  | unwinding =>
    obtain rfl := Except.ok.inj h
    exact whole
  | place l =>
    obtain ⟨block, hblock, h⟩ := bind_eq_ok_iff.1 h
    unfold block? at hblock
    split at hblock
    · rename_i found hfound
      obtain rfl := Except.ok.inj hblock
      obtain ⟨terminator, statements⟩ := blocks found (Signed.mem_of_get? hfound)
      split at h
      · obtain rfl := pure_eq_ok_iff.1 h
        exact terminator
      · split at h
        · rename_i statement hstatement
          obtain rfl := pure_eq_ok_iff.1 h
          exact statements statement (Signed.mem_of_get? hstatement)
        · cases h
    · cases hblock

/-- The sources of the statements and the terminators of some blocks. -/
def Block.sources (blocks : List Block) : List Span :=
  blocks.flatMap fun b => b.terminator.span :: b.statements.map (·.span)

theorem Block.mem_sources {blocks : List Block} {s : Span} :
    s ∈ sources blocks ↔ ∃ b ∈ blocks, s = b.terminator.span ∨ ∃ t ∈ b.statements, t.span = s := by
  simp [sources]

namespace Bytecode

/-- The source of a function goes from its start to the last end of a source of its blocks. -/
theorem Code.wholeSpan_of_function {code : Code} (notModule : code.name ≠ "<module>")
    (origin : Origin) (length : Nat) (blocks : List Block) :
    code.wholeSpan origin length blocks = .ofRegion ⟨origin.file, origin.start,
      ((Block.sources blocks).map (·.hi)).foldl max (origin.start : Int)⟩ := by
  simp [wholeSpan, notModule, Block.sources, List.map_flatMap, Function.comp_def]

theorem Origin.isIn_of_spanOf {o : Origin} {i : Instruction} {s : Span}
    (h : o.spanOf i = .ok s) : s.IsIn o.file := by
  unfold spanOf at h
  split at h
  · obtain rfl := Except.ok.inj h
    exact ⟨rfl, rfl⟩
  · obtain ⟨lo, -, h⟩ := bind_eq_ok_iff.1 h
    split at h
    · obtain rfl := pure_eq_ok_iff.1 h
      exact ⟨rfl, rfl⟩
    · obtain ⟨stop, -, h⟩ := bind_eq_ok_iff.1 h
      obtain rfl := pure_eq_ok_iff.1 h
      exact ⟨rfl, rfl⟩

theorem Code.isIn_of_codeBlock {code : Code} {leaders : List Int} {origin : Origin} {n : Nat}
    {group : List Instruction} {b : CodeBlock}
    (h : code.codeBlock leaders origin n group = .ok b) :
    b.block.terminator.span.IsIn origin.file ∧
      ∀ s ∈ b.block.statements, s.span.IsIn origin.file := by
  unfold codeBlock at h
  cases hlast : group.getLast? with
  | none => simp [hlast] at h
  | some last =>
    simp only [hlast, bind_eq_ok_iff, pure_eq_ok_iff] at h
    obtain ⟨span, hspan, statements, hstatements, rfl⟩ := h
    refine ⟨Origin.isIn_of_spanOf hspan, fun s hs => ?_⟩
    obtain ⟨k, hk⟩ := List.getElem?_of_mem hs
    obtain ⟨i, -, hi⟩ := exists_getElem?_left (mapM_eq_ok_iff.1 hstatements) hk
    simp only [bind_eq_ok_iff, pure_eq_ok_iff] at hi
    obtain ⟨span, hspan, rfl⟩ := hi
    exact Origin.isIn_of_spanOf hspan

namespace CodeGraph

variable {g : CodeGraph}

/-- Whatever the positions of its instructions are, the sources of a code are in its file. -/
theorem isIn_of_spanOf {code : Code} {source file : String}
    (h : codeGraph code source file = .ok g) {position : Position} {span : Span}
    (hspan : g.body.spanOf position = .ok span) :
    span.IsIn (if file = "" then code.file else file) := by
  obtain ⟨origin, horigin, h⟩ := bind_eq_ok_iff.1 h
  have file_eq : origin.file = if file = "" then code.file else file := by
    obtain ⟨start, -, horigin⟩ := bind_eq_ok_iff.1 horigin
    rw [← pure_eq_ok_iff.1 horigin]
  rw [← file_eq]
  split at h
  · exact absurd h (by simp [bind, Except.bind])
  · obtain ⟨blocks, hblocks, h⟩ := bind_eq_ok_iff.1 h
    obtain rfl := pure_eq_ok_iff.1 h
    refine Body.isIn_of_spanOf ?_ (fun b hb => ?_) hspan
    · simp only [Code.graphOf, Code.wholeSpan]
      split <;> exact ⟨rfl, rfl⟩
    · obtain ⟨made, hmade, rfl⟩ := List.mem_map.1 hb
      obtain ⟨k, hk⟩ := List.getElem?_of_mem hmade
      obtain ⟨p, -, hp⟩ := exists_getElem?_left (mapM_eq_ok_iff.1 hblocks) hk
      exact Code.isIn_of_codeBlock hp

/-- A position that a graph can be at: the place of some offset, or the way out. -/
def Reaches (g : CodeGraph) (position : Position) : Prop :=
  position = .unwinding ∨ ∃ offset l, g.locationFor offset = .ok l ∧ position = .place l

theorem mem_values_of_locationFor {offset : Int} {l : Location}
    (h : g.locationFor offset = .ok l) : l ∈ g.locations.values := by
  simp only [locationFor] at h
  split at h
  · rename_i found hfound
    obtain rfl := Except.ok.inj h
    obtain ⟨k, -, hk⟩ := Option.bind_eq_some_iff.1 hfound
    exact Table.mem_values_of_find? hk
  · simp at h

/-- Every offset has a place in a graph that holds any instruction, also an offset before or between
the instructions. -/
theorem exists_locationFor_of_ne_nil (h : g.locations.keys ≠ []) (offset : Int) :
    ∃ l, g.locationFor offset = .ok l := by
  have nonempty : g.locations.keys.mergeSort ≠ [] := by
    rwa [ne_eq, ← List.length_eq_zero_iff, List.length_mergeSort, List.length_eq_zero_iff]
  simp only [locationFor]
  generalize hkey : ((g.locations.keys.mergeSort.filter (· ≤ offset)).getLast?).or
    g.locations.keys.mergeSort.head? = key?
  obtain ⟨key, rfl, hmem⟩ : ∃ key, key? = some key ∧ key ∈ g.locations.keys := by
    subst hkey
    cases hlast : (g.locations.keys.mergeSort.filter (· ≤ offset)).getLast? with
    | some key =>
      have := (List.mem_filter.1 (List.mem_of_getLast? hlast)).1
      exact ⟨key, rfl, List.mem_mergeSort.1 this⟩
    | none =>
      exact ⟨_, List.head?_eq_some_head nonempty, List.mem_mergeSort.1 (List.head_mem nonempty)⟩
  cases hfind : g.locations.find? key with
  | some l => exact ⟨l, by simp [hfind]⟩
  | none => exact absurd hmem (Table.look_eq_none_iff.1 hfind)

variable {code : Code} {origin : Origin} {source : String}

theorem Shows.exists_locationFor {length : Nat} (hs : g.Shows code origin length) (h : code.Regular)
    (offset : Int) : ∃ l, g.locationFor offset = .ok l := by
  refine exists_locationFor_of_ne_nil ?_ offset
  rw [hs.keys_eq h, Code.offsets, ne_eq, List.map_eq_nil_iff]
  exact h.nonempty

/-- A graph that could be made holds an instruction. -/
theorem keys_ne_nil_of_codeGraph {file : String} (h : codeGraph code source file = .ok g) :
    g.locations.keys ≠ [] := by
  obtain ⟨origin, -, nonempty, locations, -⟩ := made_of_codeGraph h
  obtain ⟨i, hi⟩ := List.exists_mem_of_ne_nil _ nonempty
  obtain ⟨l, hl⟩ := Code.exists_placedAt_of_mem hi
  have place : (i.offset, l) ∈ code.allPlaces := Code.mem_allPlaces.2 ⟨i, hl, rfl⟩
  rw [locations]
  exact List.ne_nil_of_mem (Table.mem_keys_ofList.2 (List.mem_map_of_mem place))

/-- Each source of a statement or a terminator is that of an instruction. -/
theorem Shows.exists_instruction {length : Nat} (hs : g.Shows code origin length) (h : code.Regular)
    {s : Span} (hsource : s ∈ Block.sources g.body.blocks) :
    ∃ i ∈ code.instructions, origin.spanOf i = .ok s := by
  obtain ⟨b, hb, hsource⟩ := Block.mem_sources.1 hsource
  obtain ⟨n, hn⟩ := List.getElem?_of_mem hb
  obtain ⟨group, hg, hmade⟩ := hs.exists_group hn
  have inside {i : Instruction} (hi : i ∈ group) : i ∈ code.instructions :=
    ((Code.mem_group_iff hg).1 hi).1
  rcases hsource with rfl | ⟨t, ht, rfl⟩
  · obtain ⟨first, rest, rfl, -⟩ := Code.group_eq_cons h hg
    exact ⟨_, inside (List.getLast_mem (List.cons_ne_nil first rest)),
      hmade.span _ (List.getLast?_eq_some_getLast _)⟩
  · obtain ⟨k, hk⟩ := List.getElem?_of_mem ht
    obtain ⟨i, hi, hspan, -⟩ := exists_getElem?_left hmade.statements hk
    exact ⟨i, inside (List.mem_of_getElem? (Code.getElem?_of_shown hi)), hspan⟩

/-- The sources of statements and terminators lie in the text. -/
theorem Shows.within_source (hs : g.Shows code origin source.length) (h : code.Regular)
    (ho : origin.Of source) {s : Span} (hsource : s ∈ Block.sources g.body.blocks) :
    s.Within origin.file source.length := by
  obtain ⟨i, hi, hspan⟩ := hs.exists_instruction h hsource
  obtain ⟨s', hs', within⟩ := Origin.exists_spanOf ho (h.lines i hi)
  obtain rfl : s' = s := Except.ok.inj (hs'.symm.trans hspan)
  exact within

/-- The source of a whole code lies in the text. -/
theorem Shows.within_span (hs : g.Shows code origin source.length) (h : code.Regular)
    (ho : origin.Of source) : g.body.span.Within origin.file source.length := by
  rw [hs.span]
  by_cases isModule : code.name = "<module>"
  · rw [Code.wholeSpan, if_pos isModule]
    exact origin.within_region (Nat.zero_le _) le_rfl
  · have start : (origin.start : Int) ≤ source.length := by exact_mod_cast ho.start_le
    rw [Code.wholeSpan_of_function isModule, List.foldl_max]
    refine ⟨⟨rfl, by simp [Span.ofRegion], le_max_left _ _, max_le start ?_⟩, rfl⟩
    cases hm : ((Block.sources g.body.blocks).map (·.hi)).max? with
    | none => exact start
    | some m =>
      obtain ⟨s, hsource, rfl⟩ := List.mem_map.1 (List.max?_mem hm)
      exact (hs.within_source h ho hsource).hi_le

/-- Every position that a graph can be at has a source, and it lies in the text. -/
theorem Shows.exists_spanOf (hs : g.Shows code origin source.length) (h : code.Regular)
    (ho : origin.Of source) {position : Position} (reached : g.Reaches position) :
    ∃ s, g.body.spanOf position = .ok s ∧ s.Within origin.file source.length := by
  rcases reached with rfl | ⟨offset, l, hl, rfl⟩
  · exact ⟨_, rfl, hs.within_span h ho⟩
  · obtain ⟨i, hi⟩ := hs.mem_values_iff.1 (mem_values_of_locationFor hl)
    obtain ⟨s, hspan, hwithin⟩ := Origin.exists_spanOf ho (h.lines i hi.mem)
    exact ⟨s, (hs.spanAt_eq hi).trans hspan, hwithin⟩

end CodeGraph

end Bytecode

end TraceLens
