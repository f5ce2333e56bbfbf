import TraceLens.Proofs.Bytecode.Runs

/-!
# Endings of blocks

What the last instruction of a run makes of its block, and where control goes from there.

Main statements: `isSome_ending?_iff` says which instructions end their block by themselves,
`ending?_cases` what the ending is then, and `lt_of_goesTo` that control always goes to a block of
the same code.
-/

namespace TraceLens

namespace Ending

/-- Control can go to block `c` from an ending. -/
def GoesTo (e : Ending) (c : Int) : Prop := ∃ label, (c, label) ∈ e.successors

variable {c : Int}

@[simp] theorem goesTo_goto {target : Int} : (goto target).GoesTo c ↔ c = target := by
  simp [GoesTo, successors]

@[simp] theorem goesTo_switch {subject : String} {branches : List (String × Int)}
    {otherwise : Int} :
    (switch subject branches otherwise).GoesTo c ↔ c ∈ branches.map Prod.snd ∨ c = otherwise := by
  simp [GoesTo, successors, exists_or]

@[simp] theorem not_goesTo_ret : ¬ret.GoesTo c := by simp [GoesTo, successors]

@[simp] theorem not_goesTo_resume : ¬resume.GoesTo c := by simp [GoesTo, successors]

@[simp] theorem not_goesTo_unreachable : ¬unreachable.GoesTo c := by simp [GoesTo, successors]

@[simp] theorem goesTo_call {function : String} {arguments : List String} {place : Option String}
    {target cleanup : Option Int} :
    (call function arguments place target cleanup).GoesTo c ↔
      target = some c ∨ cleanup = some c := by
  simp [GoesTo, successors, edge?, exists_or]

end Ending

namespace Bytecode

namespace Code

variable {code : Code} {leaders : List Int} {n : Nat} {i : Instruction}

/-- Whether an instruction ends its block by itself: an unconditional jump, a return or a raise
always does, and any other jump or a guarded call if another block comes after. A jump has to say
where it goes. -/
def EndsBlock (code : Code) (i : Instruction) (more : Prop) : Prop :=
  i.target.isSome ∧ (i.isUnconditional ∨ i.isJump ∧ more) ∨ i.isReturn ∨ i.isRaise ∨
    code.isGuardedCall i ∧ more

theorem isSome_ending?_iff :
    (code.ending? leaders n i).isSome ↔ code.EndsBlock i (n + 1 < leaders.length) := by
  simp only [ending?, EndsBlock, isGuardedCall, Option.isSome_or, Bool.or_eq_true, or_assoc]
  refine or_congr ?_ ?_
  · cases i.target with
    | none => simp
    | some t =>
      by_cases hu : i.isUnconditional
      · simp [hu]
      · by_cases hj : i.isJump <;> by_cases hmore : n + 1 < leaders.length <;> simp [hu, hj, hmore]
  · rw [← or_assoc]
    refine or_congr ?_ ?_
    · by_cases hr : i.isReturn <;> by_cases hx : i.isRaise <;> simp [hr, hx]
    · by_cases hc : i.isCall
      · cases code.handlerAt? i.offset <;> by_cases hmore : n + 1 < leaders.length <;>
          simp [hc, hmore]
      · simp [hc]

/-- What ending an instruction makes of block `n`, kind by kind. -/
theorem ending?_cases {e : Ending} (he : code.ending? leaders n i = some e) :
    (∃ t, i.isUnconditional ∧ i.target = some t ∧ e = .goto (blockIndex leaders t)) ∨
    (∃ t label, i.isJump ∧ ¬i.isUnconditional ∧ i.target = some t ∧ n + 1 < leaders.length ∧
      e = .switch i.name [(label, blockIndex leaders t)] (n + 1 : Nat)) ∨
    (i.isReturn ∧ e = .ret) ∨ (i.isRaise ∧ e = .resume) ∨
    ∃ t arguments, i.isCall ∧ code.handlerAt? i.offset = some t ∧ n + 1 < leaders.length ∧
      e = .call i.name arguments none (some (n + 1 : Nat)) (some (blockIndex leaders t)) := by
  simp only [ending?, Option.or_eq_some_iff] at he
  rcases he with (hjump | ⟨-, hleave⟩) | ⟨-, hcall⟩
  · split at hjump
    · simp at hjump
    · rename_i t ht
      split at hjump
      · rename_i hu
        exact .inl ⟨t, hu, ht, by simpa using hjump.symm⟩
      · rename_i hu
        split at hjump
        · rename_i next hj hnext
          split at hnext
          · rename_i hmore
            obtain rfl : next = (n + 1 : Nat) := by simpa using hnext.symm
            exact .inr (.inl ⟨t, _, hj, hu, ht, hmore, by simpa using hjump.symm⟩)
          · simp at hnext
        · simp at hjump
  · split at hleave
    · rename_i hr
      exact .inr (.inr (.inl ⟨hr, by simpa using hleave.symm⟩))
    · split at hleave
      · rename_i hx
        exact .inr (.inr (.inr (.inl ⟨hx, by simpa using hleave.symm⟩)))
      · simp at hleave
  · split at hcall
    · rename_i t next hc ht hnext
      split at hnext
      · rename_i hmore
        obtain rfl : next = (n + 1 : Nat) := by simpa using hnext.symm
        exact .inr (.inr (.inr (.inr ⟨t, _, hc, ht, hmore, by simpa using hcall.symm⟩)))
      · simp at hnext
    · simp at hcall

/-- The ending that the last instruction of a run makes of block `n`, if it makes one. -/
def ownEnding? (code : Code) (n : Nat) (group : List Instruction) : Option Ending :=
  group.getLast?.bind (code.ending? code.leaders n)

/-- How block `n` ends: as its last instruction says, and otherwise by falling through. -/
def endingOf (code : Code) (n : Nat) (group : List Instruction) : Ending :=
  (code.ownEnding? n group).getD (fallThrough n code.leaders.length)

@[simp] theorem goesTo_fallThrough {n count : Nat} {c : Int} :
    (fallThrough n count).GoesTo c ↔ n + 1 < count ∧ c = (n + 1 : Nat) := by
  unfold fallThrough
  split <;> simp_all

/-- Whatever the targets and handlers of a code are, control goes to one of its blocks. -/
theorem lt_of_goesTo (hne : code.leaders ≠ []) {n : Nat} {group : List Instruction} {c : Int}
    (hc : (code.endingOf n group).GoesTo c) : 0 ≤ c ∧ c < code.leaders.length := by
  have inside (offset : Int) := blockIndex_lt hne offset
  unfold endingOf at hc
  cases hown : code.ownEnding? n group with
  | none =>
    rw [hown, Option.getD_none, goesTo_fallThrough] at hc
    omega
  | some e =>
    rw [hown, Option.getD_some] at hc
    obtain ⟨last, -, he⟩ := Option.bind_eq_some_iff.1 hown
    rcases ending?_cases he with ⟨t, -, -, rfl⟩ | ⟨t, label, -, -, -, hmore, rfl⟩ |
      ⟨-, rfl⟩ | ⟨-, rfl⟩ | ⟨t, arguments, -, -, hmore, rfl⟩
    · have := inside t
      rw [Ending.goesTo_goto] at hc
      omega
    · have := inside t
      simp only [Ending.goesTo_switch, List.map_cons, List.map_nil, List.mem_singleton] at hc
      omega
    · simp at hc
    · simp at hc
    · have := inside t
      simp only [Ending.goesTo_call, Option.some_inj] at hc
      omega

end Code

end Bytecode

end TraceLens
