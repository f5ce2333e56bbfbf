import Mathlib.Logic.Relation
import TraceLens.Proofs.Bytecode.Sources
import TraceLens.Recorder.Run

/-!
# What a run records

An event makes a recorder ask for graphs of its own codes and take snapshots in graphs that it keeps,
and nothing else. So what holds of a recorder at the start of a run and through these two moves
holds of it after the run. Each snapshot then shows the graph of a code of the recorder's own file,
at the place of some offset or on the way out of it.

Main statements: `step_moves` says what an event does to a recorder, `Stable.replay` and
`Stable.runScript` go through the events of a session, and `runScript_traces` says what the snapshots
show.
-/

namespace TraceLens

open Bytecode Relation

/-- The graph of the own code of number `n`. -/
def OwnGraph (codes : List Code) (source file : String) (n : Nat) (g : CodeGraph) : Prop :=
  ∃ code, codes[n]? = some code ∧ code.file = file ∧ codeGraph code source file = .ok g

theorem OwnGraph.unique {codes : List Code} {source file : String} {n : Nat} {g g' : CodeGraph}
    (h : OwnGraph codes source file n g) (h' : OwnGraph codes source file n g') : g = g' := by
  obtain ⟨code, hcode, -, hg⟩ := h
  obtain ⟨code', hcode', -, hg'⟩ := h'
  obtain rfl : code = code' := Option.some_inj.1 (hcode.symm.trans hcode')
  exact Except.ok.inj (hg.symm.trans hg')

/-- A snapshot shows the graph of an own code at a position that the graph can be at. -/
def Snapshot.Shows (snapshot : Snapshot) (codes : List Code) (source file : String) : Prop :=
  ∃ n g, OwnGraph codes source file n g ∧ snapshot.body = g.body ∧ g.Reaches snapshot.position

/-- The source of a recorded snapshot is a region of the file of its script. -/
theorem Snapshot.Shows.isIn {s : Snapshot} {codes : List Code} {source file : String}
    (h : s.Shows codes source file) {span : Span} (hspan : s.body.spanOf s.position = .ok span) :
    span.IsIn file := by
  obtain ⟨n, g, ⟨code, -, hfile, hg⟩, hbody, -⟩ := h
  rw [hbody] at hspan
  have := CodeGraph.isIn_of_spanOf hg hspan
  rwa [hfile, ite_self] at this

/-- All codes of a file in a session can be shown. -/
def Session.Regular (session : Session) (file : String) : Prop :=
  ∀ code ∈ session.codes, code.file = file → code.Regular

/-- Each position that a snapshot shows lies in the source. -/
theorem Snapshot.Shows.exists_spanOf {snapshot : Snapshot} {codes : List Code}
    {source file : String} (h : snapshot.Shows codes source file)
    (regular : ∀ code ∈ codes, code.file = file → code.Regular) :
    ∃ span, snapshot.body.spanOf snapshot.position = .ok span ∧ span.Within file source.length := by
  obtain ⟨n, g, ⟨code, hcode, hfile, hg⟩, hbody, reached⟩ := h
  have hregular := regular code (List.mem_of_getElem? hcode) hfile
  obtain ⟨origin, horigin, shows⟩ := shows_of_codeGraph hregular hg
  obtain ⟨ho, file_eq⟩ := Code.of_origin hregular horigin
  obtain rfl : origin.file = file := by rw [file_eq, hfile, ite_self]
  rw [hbody]
  exact shows.exists_spanOf hregular ho reached

/-- A recorder of a script keeps the graphs of its own codes, and its snapshots show them. -/
structure Recorder.Traces (r : Recorder) (codes : List Code) (source file : String) : Prop where
  source_eq : r.source = source
  file_eq : r.file = file
  graphs : ∀ n kept, r.graphs.find? n = some kept → OwnGraph codes source file n kept.graph
  snapshots : ∀ snapshot ∈ r.snapshots, snapshot.Shows codes source file

namespace Recorder

variable {r r' : Recorder} {codes : List Code} {source file : String} {n : Nat} {kept : KeptGraph}

theorem traces_start (r : Recorder) (codes : List Code) (source : String) :
    Traces { r with source, snapshots := [], graphs := {} } codes source r.file :=
  ⟨rfl, rfl, by simp [Table.find?, Table.look], by simp⟩

theorem Traces.owned (hr : r.Traces codes source file) (h : r.owns codes n) :
    ∃ code, codes[n]? = some code ∧ code.file = file := by
  simpa [owns, Option.any_eq_true, hr.file_eq] using h

/-- A graph that is asked for is one that is kept, or it is made and gets the next identity. -/
theorem graphFor_cases (h : r.graphFor codes n = .ok (kept, r')) :
    (r.graphs.find? n = some kept ∧ r' = r) ∨
    (r.graphs.find? n = none ∧ kept.bodyId = ⟨r.number, r.made⟩ ∧
      (∃ code, codes[n]? = some code ∧ codeGraph code r.source r.file = .ok kept.graph) ∧
      r' = { r with graphs := r.graphs.insert n kept, made := r.made + 1 }) := by
  unfold graphFor at h
  split at h
  · rename_i stored hstored
    obtain ⟨rfl, rfl⟩ : stored = kept ∧ r = r' := by simpa using h
    exact .inl ⟨hstored, rfl⟩
  · rename_i hnone
    split at h
    · cases h
    · rename_i code hcode
      split at h
      · cases h
      · rename_i graph hgraph
        obtain ⟨rfl, rfl⟩ := Prod.mk.inj (Except.ok.inj h)
        exact .inr ⟨hnone, rfl, ⟨code, hcode, hgraph⟩, rfl⟩

/-- A graph that is asked for is kept from then on. -/
theorem kept_of_graphFor (h : r.graphFor codes n = .ok (kept, r')) :
    r'.graphs.find? n = some kept := by
  rcases graphFor_cases h with ⟨hfind, rfl⟩ | ⟨-, -, -, rfl⟩
  · exact hfind
  · exact Table.find?_insert_self _ _ _

theorem graphFor_of_kept (h : r.graphs.find? n = some kept) (codes : List Code) :
    r.graphFor codes n = .ok (kept, r) := by
  rw [Recorder.graphFor, h]

/-- The graph of an own code is found or made, and the recorder keeps it. -/
theorem Traces.graphFor (hr : r.Traces codes source file)
    (own : ∃ code, codes[n]? = some code ∧ code.file = file)
    (h : r.graphFor codes n = .ok (kept, r')) :
    OwnGraph codes source file n kept.graph ∧ r'.Traces codes source file := by
  rcases graphFor_cases h with ⟨hfind, rfl⟩ | ⟨-, -, ⟨code, hcode, hmade⟩, rfl⟩
  · exact ⟨hr.graphs n kept hfind, hr⟩
  · obtain ⟨code', hcode', hfile⟩ := own
    obtain rfl : code' = code := Option.some_inj.1 (hcode'.symm.trans hcode)
    rw [hr.source_eq, hr.file_eq] at hmade
    have hown : OwnGraph codes source file n kept.graph := ⟨code', hcode, hfile, hmade⟩
    refine ⟨hown, hr.source_eq, hr.file_eq, fun m other hfind => ?_, hr.snapshots⟩
    by_cases hmn : m = n
    · subst hmn
      rw [Table.find?_insert_self, Option.some_inj] at hfind
      exact hfind ▸ hown
    · rw [Table.find?_insert_of_ne _ _ hmn] at hfind
      exact hr.graphs m other hfind

end Recorder

/-! ## One event -/

/-- The two moves of a recorder: it asks for the graph of an own code, and it takes a snapshot in a
graph that it keeps. -/
inductive Recorder.Moves (codes : List Code) (r : Recorder) : Recorder → Prop
  | ask {n : Nat} {kept : KeptGraph} {r' : Recorder} (own : r.owns codes n)
      (made : r.graphFor codes n = .ok (kept, r')) : Moves codes r r'
  | take {n : Nat} {kept : KeptGraph} {position : Position} (line : Option Int)
      (locals : Table String String) (found : r.graphs.find? n = some kept)
      (reached : kept.graph.Reaches position) :
      Moves codes r
        { r with
          snapshots := r.snapshots ++
            [{ bodyId := kept.bodyId, body := kept.graph.body, position, line, locals }] }

namespace Recording

variable {s t : Recording} {codes : List Code} {m : Moment}

theorem record_moves {position : Position} (own : s.recorder.owns codes m.code)
    (reached : ∀ kept r, s.recorder.graphFor codes m.code = .ok (kept, r) →
      kept.graph.Reaches position)
    (h : s.record codes m position = .ok t) :
    ReflTransGen (Recorder.Moves codes) s.recorder t.recorder := by
  unfold record at h
  split at h
  · obtain rfl := Except.ok.inj h
    exact .refl
  · obtain ⟨locals, -, h⟩ := bind_eq_ok_iff.1 h
    obtain ⟨⟨kept, r⟩, hgraph, h⟩ := bind_eq_ok_iff.1 h
    obtain rfl := pure_eq_ok_iff.1 h
    have asked : ReflTransGen (Recorder.Moves codes) s.recorder r := .single (.ask own hgraph)
    exact asked.tail
      (.take m.line locals (Recorder.kept_of_graphFor hgraph) (reached kept r hgraph))

theorem onLine_moves (h : s.onLine codes m = .ok t) :
    ReflTransGen (Recorder.Moves codes) s.recorder t.recorder := by
  unfold onLine at h
  split at h
  · rename_i own
    obtain ⟨⟨kept, r⟩, hgraph, h⟩ := bind_eq_ok_iff.1 h
    obtain ⟨l, hl, h⟩ := bind_eq_ok_iff.1 h
    obtain ⟨u, hu, h⟩ := bind_eq_ok_iff.1 h
    obtain rfl := pure_eq_ok_iff.1 h
    have own' : r.owns codes m.code := by
      rcases Recorder.graphFor_cases hgraph with ⟨-, rfl⟩ | ⟨-, -, -, rfl⟩ <;> exact own
    have hlocation : kept.graph.locationFor m.offset = .ok l := by
      cases hg : kept.graph.locationFor m.offset with
      | error f => simp [hg, Except.mapError] at hl
      | ok l' => simpa [hg, Except.mapError] using hl
    refine .head (.ask own hgraph)
      (record_moves (t := u) (s := { s with recorder := r }) own' (fun kept' r' hgraph' => ?_) hu)
    -- the graph that the snapshot asks for is the one whose place was looked up
    have again := Recorder.graphFor_of_kept (Recorder.kept_of_graphFor hgraph) codes
    obtain ⟨rfl, -⟩ := Prod.mk.inj (Except.ok.inj (again.symm.trans hgraph'))
    exact .inr ⟨m.offset, l, hlocation, rfl⟩
  · obtain rfl := Except.ok.inj h
    exact .refl

theorem onException_moves (h : s.onException codes m = .ok t) :
    ReflTransGen (Recorder.Moves codes) s.recorder t.recorder := by
  unfold onException at h
  split at h
  · rename_i own
    obtain ⟨u, hu, h⟩ := bind_eq_ok_iff.1 h
    obtain rfl := pure_eq_ok_iff.1 h
    exact record_moves (t := u) own (fun _ _ _ => .inl rfl) hu
  · obtain rfl := Except.ok.inj h
    exact .refl

/-- An event makes a recorder ask for graphs and take snapshots, and nothing else. -/
theorem step_moves {event : Event} (h : s.step codes event = .ok t) :
    ReflTransGen (Recorder.Moves codes) s.recorder t.recorder := by
  cases event with
  | print text =>
    obtain rfl := Except.ok.inj h
    exact .refl
  | line m =>
    simp only [step] at h
    split at h
    · exact onLine_moves h
    · obtain rfl := Except.ok.inj h
      exact .refl
  | exception m =>
    simp only [step] at h
    split at h
    · exact onException_moves h
    · obtain rfl := Except.ok.inj h
      exact .refl

end Recording

/-! ## A whole run -/

theorem RunResult.recorder_of (s : Recording) (error : Option ScriptError) :
    (RunResult.of s error).recorder = s.recorder := by
  unfold RunResult.of
  split
  · rfl
  · split
    · rfl
    · split <;> rfl

namespace Recorder

/-- A property that no move of a recorder ends. -/
def Stable (P : Recorder → Prop) (codes : List Code) : Prop :=
  ∀ ⦃r r'⦄, P r → r.Moves codes r' → P r'

namespace Stable

variable {P : Recorder → Prop} {codes : List Code} {s : Recording}

theorem moves (h : Stable P codes) {r r' : Recorder} (hr : P r)
    (moves : ReflTransGen (Moves codes) r r') : P r' := by
  induction moves with
  | refl => exact hr
  | tail _ move ih => exact h ih move

theorem replay (h : Stable P codes) (hs : P s.recorder) (events : List Event) :
    P (Recording.replay codes events s).1.recorder := by
  induction events generalizing s with
  | nil => exact hs
  | cons event rest ih =>
    unfold Recording.replay
    split
    · rename_i t ht
      exact ih (h.moves hs (Recording.step_moves ht))
    · exact hs

/-- What holds of a recorder at the start of a run holds of it after the run. -/
theorem runScript {r : Recorder} {session : Session} {source : String}
    (h : Stable P session.codes) (hr : P { r with source, snapshots := [], graphs := {} }) :
    P (r.runScript session source).recorder := by
  unfold Recorder.runScript
  split
  · exact hr
  · rw [RunResult.recorder_of]
    exact h.replay hr _

end Stable

theorem stable_traces (codes : List Code) (source file : String) :
    Stable (fun r => r.Traces codes source file) codes := by
  intro r r' hr move
  cases move with
  | ask own made => exact (hr.graphFor (hr.owned own) made).2
  | @take n kept position line locals found reached =>
    refine ⟨hr.source_eq, hr.file_eq, hr.graphs, fun snapshot hmem => ?_⟩
    rcases List.mem_append.1 hmem with hold | hnew
    · exact hr.snapshots snapshot hold
    · obtain rfl := List.mem_singleton.1 hnew
      exact ⟨n, kept.graph, hr.graphs n kept found, rfl, reached⟩

/-- After a run of a script the recorder traces the script. -/
theorem runScript_traces (r : Recorder) (session : Session) (source : String) :
    (r.runScript session source).recorder.Traces session.codes source r.file :=
  (stable_traces session.codes source r.file).runScript (r.traces_start session.codes source)

end Recorder

end TraceLens
