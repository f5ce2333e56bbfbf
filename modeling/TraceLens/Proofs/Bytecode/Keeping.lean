import TraceLens.Proofs.Bytecode.Places

/-!
# Nothing is lost

The graph of a code has a place for each instruction and no other places, though an instruction
becomes a statement or a terminator, and jumps and handlers may point anywhere.

Main statement: `mem_values_iff_of_block` says which places there are; `CodeGraph.Keeps` lists all
that a graph keeps of its code.
-/

namespace TraceLens.Bytecode

section Values

variable {g : CodeGraph} {code : Code} {origin : Origin} {length : Nat}

/-- The places of a block are its statements and, if an instruction ended it, its terminator. -/
theorem CodeGraph.Shows.mem_values_iff_of_block (hs : g.Shows code origin length) {l : Location} :
    l ∈ g.locations.values ↔ ∃ (n : Nat) (group : List Instruction) (b : Block),
      code.groups[n]? = some group ∧ g.body.blocks[n]? = some b ∧ l.block = n ∧
        (0 ≤ l.statement ∧ l.statement < b.statements.length ∨
          l.statement = b.statements.length ∧ (code.ownEnding? n group).isSome) := by
  rw [hs.mem_values_iff]
  constructor
  · rintro ⟨i, n, group, k, hg, hk, rfl⟩
    obtain ⟨b, hb, hmade⟩ := hs.exists_block hg
    refine ⟨n, group, b, hg, hb, rfl, ?_⟩
    have hlen := hmade.length_statements
    have hkl := (List.getElem?_eq_some_iff.1 hk).1
    by_cases hown : (code.ownEnding? n group).isSome
    · rw [if_pos hown] at hlen
      rcases Nat.lt_or_eq_of_le (show k ≤ b.statements.length by omega) with hlt | heq
      · exact .inl ⟨by simp, by simpa using hlt⟩
      · exact .inr ⟨by dsimp only; omega, hown⟩
    · rw [if_neg hown] at hlen
      exact .inl ⟨by simp, by dsimp only; omega⟩
  · rintro ⟨n, group, b, hg, hb, hn, hplace⟩
    have hlen := (hs.makes hg hb).length_statements
    have hkl : l.statement.toNat < group.length := by
      rcases hplace with ⟨hpos, hlt⟩ | ⟨heq, hown⟩
      · split at hlen <;> omega
      · rw [if_pos hown] at hlen
        omega
    refine ⟨group[l.statement.toNat], n, group, l.statement.toNat, hg,
      List.getElem?_eq_getElem hkl, ?_⟩
    obtain ⟨block, statement⟩ := l
    simp only [Location.mk.injEq]
    dsimp only at hn hplace
    omega

end Values

/-- A graph keeps the instructions of a code: each one is at a place of its own, with its own
source, the places stand in the order of the offsets and leave no gap in a block, and control never
leaves the graph. -/
structure CodeGraph.Keeps (g : CodeGraph) (code : Code) (origin : Origin) : Prop where
  keys : g.locations.keys = code.offsets
  ordered : ∀ a b l m, g.locations.find? a = some l → g.locations.find? b = some m → a < b →
    l.Before m
  values : ∀ l, l ∈ g.locations.values ↔ ∃ (n : Nat) (group : List Instruction) (b : Block),
    code.groups[n]? = some group ∧ g.body.blocks[n]? = some b ∧ l.block = n ∧
      (0 ≤ l.statement ∧ l.statement < b.statements.length ∨
        l.statement = b.statements.length ∧ (code.ownEnding? n group).isSome)
  endings : ∀ (n : Nat) group b, code.groups[n]? = some group → g.body.blocks[n]? = some b →
    b.terminator.ending = (code.ownEnding? n group).getD (fallThrough n g.body.blocks.length)
  spans : ∀ i ∈ code.instructions, ∃ l s, g.locations.find? i.offset = some l ∧
    g.body.spanAt l = .ok s ∧ origin.spanOf i = .ok s
  targets : ∀ b ∈ g.body.blocks, ∀ c, b.terminator.ending.GoesTo c →
    0 ≤ c ∧ c < g.body.blocks.length

/-- The graph of a code keeps its instructions, whatever its targets, handlers and columns are. -/
theorem codeGraph_keeps {code : Code} (h : code.Regular) (source file : String) :
    ∃ origin g, code.origin source file = .ok origin ∧ codeGraph code source file = .ok g ∧
      g.Keeps code origin := by
  obtain ⟨g, hg⟩ := exists_codeGraph h source file
  obtain ⟨origin, horigin, hs⟩ := shows_of_codeGraph h hg
  refine ⟨origin, g, horigin, hg, ?_⟩
  constructor
  case keys => exact hs.keys_eq h
  case ordered =>
    intro a b l m ha hb hlt
    obtain ⟨i, hi, rfl⟩ := (hs.find?_eq_some_iff h).1 ha
    obtain ⟨j, hj, rfl⟩ := (hs.find?_eq_some_iff h).1 hb
    exact hi.before h hj hlt
  case values =>
    intro l
    exact hs.mem_values_iff_of_block
  case endings =>
    intro n group b hgroup hb
    rw [(hs.makes hgroup hb).ending, Code.endingOf, hs.length_blocks]
  case spans =>
    intro i hi
    obtain ⟨l, hl⟩ := Code.exists_placedAt h hi
    have hof := (Code.of_origin h horigin).1
    obtain ⟨s, hspan, -⟩ := Origin.exists_spanOf hof (h.lines i hi)
    exact ⟨l, s, (hs.find?_eq_some_iff h).2 ⟨i, hl, rfl⟩, (hs.spanAt_eq hl).trans hspan, hspan⟩
  case targets =>
    intro b hb c hc
    obtain ⟨n, hn⟩ := List.getElem?_of_mem hb
    obtain ⟨group, -, hmade⟩ := hs.exists_group hn
    rw [hmade.ending] at hc
    rw [hs.length_blocks]
    exact Code.lt_of_goesTo (Code.leaders_ne_nil h) hc

theorem codeGraph_keeps_guardedLoop : guardedLoop.Regular ∧
    ∃ origin g, guardedLoop.origin "while f(): pass" "" = .ok origin ∧
      codeGraph guardedLoop "while f(): pass" = .ok g ∧ g.Keeps guardedLoop origin :=
  ⟨guardedLoop_regular, codeGraph_keeps guardedLoop_regular _ _⟩

end TraceLens.Bytecode
