import TraceLens.Proofs.Recorder.Snapshots
import TraceLens.Proofs.Table

/-!
# Identities of bodies

A recorder gives each body that it makes an identity of its own: its number, and how many bodies it
has made before. So the graph of a body is found again by the identity of the body, and a body of
another recorder or of an earlier run is not found.

Main statements: `runScript_identifies` says that the identities are apart after a run,
`Identifies.graphOf?_bodyId` and `Identifies.graphOf?_of_unknown` what they are good for.
-/

namespace TraceLens

open Bytecode

namespace Recorder

variable {r r' : Recorder} {codes : List Code} {n n' : Nat} {kept kept' : KeptGraph} {first : Nat}

/-! ## Kept graphs -/

/-- The second recorder still keeps all graphs that the first one keeps. -/
def Keeps (r r' : Recorder) : Prop :=
  ∀ n kept, r.graphs.find? n = some kept → r'.graphs.find? n = some kept

/-- When a graph is asked for, the ones that are kept stay. -/
theorem keeps_of_graphFor (h : r.graphFor codes n = .ok (kept, r')) : r.Keeps r' := by
  rcases graphFor_cases h with ⟨-, rfl⟩ | ⟨hnone, -, -, rfl⟩
  · exact fun _ _ => id
  · intro k other hother
    have different : k ≠ n := by
      rintro rfl
      rw [hnone] at hother
      cases hother
    rwa [Table.find?_insert_of_ne _ _ different]

theorem stable_keeps (r : Recorder) (codes : List Code) : Stable r.Keeps codes := by
  intro r' r'' keeps move
  cases move with
  | ask _ made => exact fun k kept hkept => keeps_of_graphFor made k kept (keeps k kept hkept)
  | take => exact keeps

/-! ## Identities -/

/-- The bodies that a recorder keeps have different identities, all of its own and drawn since it
had made as many bodies as given. -/
structure Identifies (r : Recorder) (first : Nat) : Prop where
  first_le : first ≤ r.made
  allotted : ∀ kept ∈ r.graphs.values,
    kept.bodyId.recorder = r.number ∧ first ≤ kept.bodyId.serial ∧ kept.bodyId.serial < r.made
  distinct : (r.graphs.values.map KeptGraph.bodyId).Nodup

theorem identifies_start (r : Recorder) (source : String) :
    Identifies { r with source, snapshots := [], graphs := {} } r.made :=
  ⟨Nat.le_refl _, by simp [Table.values], by simp [Table.values]⟩

theorem Identifies.graphFor (hr : r.Identifies first)
    (h : r.graphFor codes n = .ok (kept, r')) : r'.Identifies first := by
  rcases graphFor_cases h with ⟨-, rfl⟩ | ⟨hnone, hid, -, rfl⟩
  · exact hr
  · have written : (r.graphs.insert n kept).values = r.graphs.values ++ [kept] := by
      rw [Table.values, Table.insert, Table.put_of_notMem _ (Table.look_eq_none_iff.1 hnone),
        List.map_append]
      rfl
    refine ⟨hr.first_le.trans (Nat.le_succ _), ?_, ?_⟩
    · intro other hother
      rw [written] at hother
      rcases List.mem_append.1 hother with hold | hnew
      · obtain ⟨number, lower, upper⟩ := hr.allotted other hold
        exact ⟨number, lower, upper.trans (Nat.lt_succ_self _)⟩
      · obtain rfl := List.mem_singleton.1 hnew
        rw [hid]
        exact ⟨rfl, hr.first_le, Nat.lt_succ_self _⟩
    · rw [written, List.map_append, List.map_singleton]
      refine List.nodup_append.2 ⟨hr.distinct, List.nodup_singleton _, ?_⟩
      rintro id hold _ hnew rfl
      obtain ⟨other, hother, rfl⟩ := List.mem_map.1 hold
      obtain hserial := congrArg BodyId.serial ((List.mem_singleton.1 hnew).trans hid)
      exact absurd hserial (hr.allotted other hother).2.2.ne

theorem stable_identifies (first : Nat) (codes : List Code) :
    Stable (fun r => r.Identifies first) codes := by
  intro r r' hr move
  cases move with
  | ask _ made => exact hr.graphFor made
  | take => exact ⟨hr.first_le, hr.allotted, hr.distinct⟩

/-- After a run, the bodies that are kept have been made in it. -/
theorem runScript_identifies (r : Recorder) (session : Session) (source : String) :
    (r.runScript session source).recorder.Identifies r.made :=
  (stable_identifies r.made session.codes).runScript (r.identifies_start source)

namespace Identifies

/-- The graph of a body that is kept is found by the identity of the body. -/
theorem graphOf?_bodyId (h : r.Identifies first) (hn : r.graphs.find? n = some kept) :
    r.graphOf? kept.bodyId = some kept := by
  have member := Table.mem_values_of_find? hn
  cases hfound : r.graphOf? kept.bodyId with
  | none => exact absurd (decide_eq_true rfl) (List.find?_eq_none.1 hfound kept member)
  | some found =>
    have same : found.bodyId = kept.bodyId := by simpa using List.find?_some hfound
    exact congrArg some <|
      List.inj_on_of_nodup_map h.distinct (List.mem_of_find?_eq_some hfound) member same

/-- A body of another recorder or of an earlier run is not found. -/
theorem graphOf?_of_unknown (h : r.Identifies first) {id : BodyId}
    (unknown : id.recorder ≠ r.number ∨ id.serial < first) : r.graphOf? id = none := by
  refine List.find?_eq_none.2 fun kept hkept same => ?_
  obtain rfl : kept.bodyId = id := by simpa using same
  obtain ⟨number, lower, -⟩ := h.allotted kept hkept
  rcases unknown with other | earlier
  · exact other number
  · omega

end Identifies

theorem breakpointsFor_of_graphOf? {id : BodyId} (h : r.graphOf? id = some kept)
    (lines : List Int) : r.breakpointsFor id lines = kept.graph.breakpointsForLines lines := by
  rw [breakpointsFor, h]

end Recorder

end TraceLens
