import TraceLens.Proofs.Recorder.Identities

/-!
# A recording under way

What one event of a session comes to. An event outside the script changes nothing of what is
recorded. An own event leads to its snapshot while there is room for one, unless its variables cannot
all be shown, and to none at the limit.

Main statements: `step_frame` says what no event touches. `step_of_own` brings an own event down to
taking a snapshot, from which `step_of_shown`, `step_of_refusal` and `step_of_limit` say what comes
of it; `step_of_foreign` is about all other events.
-/

namespace TraceLens

open Bytecode

/-! ## Events -/

/-- The moment that an event shows. -/
def Event.moment? : Event → Option Moment
  | .print _ => none
  | .line m => some m
  | .exception m => some m

/-- The number of the code that is running at an event. -/
def Event.code? (event : Event) : Option Nat := event.moment?.map Moment.code

/-- The text that an event prints. -/
def Event.printed : Event → String
  | .print text => text
  | .line _ | .exception _ => ""

/-- Whether an event belongs to the script of a file. -/
def Event.isOwn (codes : List Code) (file : String) (event : Event) : Bool :=
  event.moment?.any fun m => (codes[m.code]?).any fun code => code.file = file

/-- The position of an event in the graph of the code of its moment. -/
inductive Event.At (g : CodeGraph) : Event → Moment → Position → Prop
  | line {m : Moment} {l : Location} (h : g.locationFor m.offset = .ok l) :
      At g (.line m) m (.place l)
  | exception {m : Moment} : At g (.exception m) m .unwinding

theorem Event.At.reaches {g : CodeGraph} {event : Event} {m : Moment} {position : Position}
    (h : event.At g m position) : g.Reaches position := by
  cases h with
  | line h => exact .inr ⟨m.offset, _, h, rfl⟩
  | exception => exact .inl rfl

/-! ## Variables -/

/-- What is raised when a snapshot is to show a value: an exception of the value that is no ordinary
one, or what an ordinary one raises when it is shown in place of the value. -/
def Value.refusal? (v : Value) : Option ScriptError :=
  match v.shown with
  | .ok _ => none
  | .error ⟨e, again⟩ => if e.endsProgram then some e else again

namespace Variable

/-- A variable with its name, unless that starts with two underscores. -/
def visible? (v : Variable) : Option (String × Value) :=
  match v.key with
  | .text name => if ['_', '_'].isPrefixOf name.toList then none else some (name, v.value)
  | .other _ => none

/-- What is raised when a snapshot comes to a variable: by its key, by its value, or after that since
the namespace has changed. -/
def refusal? (v : Variable) : Option ScriptError :=
  match v.key with
  | .text name => if ['_', '_'].isPrefixOf name.toList then none else v.value.refusal?.or v.upset
  | .other e => some e

end Variable

/-- The variables of a moment but those whose names start with two underscores. -/
def Moment.visible (m : Moment) : List (String × Value) :=
  m.locals.entries.filterMap Variable.visible?

/-- The exception with which the variables of a moment end the script instead of being shown. -/
def Moment.refusal? (m : Moment) : Option ScriptError :=
  m.locals.entries.findSome? Variable.refusal?

/-- The exception of an event of which no snapshot can be taken. -/
def Event.refusal? (event : Event) : Option ScriptError := event.moment?.bind Moment.refusal?

/-- Variables with what is shown for them. -/
def Shown (visible : List (String × Value)) (shown : List (String × String)) : Prop :=
  List.Forall₂ (fun v s => s.1 = v.1 ∧ v.2.safelyShown = .ok s.2) visible shown

section Variables

theorem Value.failure?_safelyShown (v : Value) : failure? v.safelyShown = v.refusal? := by
  unfold safelyShown refusal?
  cases v.shown with
  | ok s => rfl
  | error r =>
    obtain ⟨e, again⟩ := r
    dsimp only
    split
    · rfl
    · cases again <;> rfl

namespace Variable

variable (v : Variable)

theorem failure?_shown? : failure? v.shown? = v.refusal? := by
  unfold shown? refusal?
  cases v.key with
  | other e => rfl
  | text name =>
    dsimp only
    split
    · rfl
    · rw [← Value.failure?_safelyShown]
      cases v.value.safelyShown with
      | error e => rfl
      | ok text => cases v.upset <;> rfl

theorem name?_of_visible? {v : Variable} {s : String × Value} (h : v.visible? = some s) :
    v.name? = some s.1 := by
  unfold visible? at h
  unfold name?
  cases hkey : v.key with
  | other e =>
    rw [hkey] at h
    cases h
  | text name =>
    rw [hkey] at h
    dsimp only at h ⊢
    split at h
    · cases h
    · obtain rfl := Option.some_inj.1 h
      rfl

/-- A variable that is shown is shown under its name, and one that is not visible is left out. -/
theorem rel_visible?_of_shown? {v : Variable} {shown : Option (String × String)}
    (h : v.shown? = .ok shown) :
    Option.Rel (fun v s => s.1 = v.1 ∧ v.2.safelyShown = .ok s.2) v.visible? shown := by
  unfold shown? at h
  unfold visible?
  cases hkey : v.key with
  | other e =>
    rw [hkey] at h
    cases h
  | text name =>
    rw [hkey] at h
    dsimp only at h ⊢
    split at h
    · rename_i hidden
      obtain rfl := Except.ok.inj h
      rw [if_pos hidden]
      exact .none
    · rename_i visible
      rw [if_neg visible]
      obtain ⟨text, htext, h⟩ := bind_eq_ok_iff.1 h
      split at h
      · obtain rfl := pure_eq_ok_iff.1 h
        exact .some ⟨rfl, htext⟩
      · cases h

end Variable

variable {m : Moment}

/-- No two visible variables have one name. -/
theorem Moment.nodup_visible (m : Moment) : (m.visible.map Prod.fst).Nodup := by
  refine List.pairwise_map.2 (List.pairwise_filterMap.2 ?_)
  refine (List.pairwise_filterMap.1 m.locals.nodup).imp fun {v v'} different s hs s' hs' => ?_
  exact different _ (Variable.name?_of_visible? hs) _ (Variable.name?_of_visible? hs')

theorem shownLocals_of_refusal {e : ScriptError} (h : m.refusal? = some e) :
    shownLocals m.locals = .error e := by
  have refused : m.locals.entries.mapM Variable.shown? = .error e := by
    refine mapM_of_findSome? ?_
    simpa only [Variable.failure?_shown?, Moment.refusal?] using h
  rw [shownLocals, refused]
  rfl

theorem exists_shownLocals (h : m.refusal? = none) :
    ∃ shown, shownLocals m.locals = .ok shown ∧ Shown m.visible shown.entries := by
  obtain ⟨all, hall⟩ : ∃ all, m.locals.entries.mapM Variable.shown? = .ok all := by
    refine exists_mapM_eq_ok fun v hv => failure?_eq_none_iff.1 ?_
    rw [Variable.failure?_shown?]
    exact List.findSome?_eq_none_iff.1 h v hv
  have related : Shown m.visible (all.filterMap id) := by
    refine List.rel_filterMap (R := fun v o => Variable.shown? v = .ok o) (fun v o h => ?_)
      (mapM_eq_ok_iff.1 hall)
    exact Variable.rel_visible?_of_shown? h
  have names : (all.filterMap id).map Prod.fst = m.visible.map Prod.fst := by
    rw [← List.forall₂_eq_eq_eq, List.forall₂_map_left_iff, List.forall₂_map_right_iff]
    exact related.flip.imp fun _ _ h => h.1
  refine ⟨.ofList (all.filterMap id), by rw [shownLocals, hall]; rfl, ?_⟩
  rwa [Table.entries_ofList (names ▸ m.nodup_visible)]

end Variables

/-! ## Snapshots -/

/-- A snapshot that shows an event in the graph of the code of its moment, with the body under which
the recorder keeps that graph. -/
structure Snapshot.Records (snapshot : Snapshot) (r : Recorder) (codes : List Code)
    (source file : String) (event : Event) (m : Moment) (g : CodeGraph) : Prop where
  own : OwnGraph codes source file m.code g
  kept : r.graphs.find? m.code = some ⟨snapshot.bodyId, g⟩
  position : event.At g m snapshot.position
  body : snapshot.body = g.body
  line : snapshot.line = m.line
  locals : Shown m.visible snapshot.locals.entries

theorem Snapshot.Records.keeps {snapshot : Snapshot} {r r' : Recorder} {codes : List Code}
    {source file : String} {event : Event} {m : Moment} {g : CodeGraph}
    (h : snapshot.Records r codes source file event m g) (keeps : r.Keeps r') :
    snapshot.Records r' codes source file event m g :=
  { h with kept := keeps _ _ h.kept }

/-- Snapshots that show the events of a list, one for each and in their order. -/
def Recorder.Records (r : Recorder) (codes : List Code) (source file : String)
    (events : List Event) (snapshots : List Snapshot) : Prop :=
  List.Forall₂ (fun event snapshot => ∃ m g, event.moment? = some m ∧
    snapshot.Records r codes source file event m g) events snapshots

/-- Each code of a file has a graph. -/
def HasGraphs (codes : List Code) (source file : String) : Prop :=
  ∀ code ∈ codes, code.file = file → ∃ g, codeGraph code source file = .ok g

theorem hasGraphs_of_regular {codes : List Code} {file : String}
    (regular : ∀ code ∈ codes, code.file = file → code.Regular) (source : String) :
    HasGraphs codes source file :=
  fun code hcode hfile => exists_codeGraph (regular code hcode hfile) source file

theorem hasGraphs_guardedLoop (source file : String) : HasGraphs [guardedLoop] source file := by
  refine hasGraphs_of_regular (fun code hcode _ => ?_) source
  obtain rfl := List.mem_singleton.1 hcode
  exact guardedLoop_regular

/-- An event of the script comes at a moment of a code that has a graph. -/
theorem exists_ownGraph {codes : List Code} {source file : String} {event : Event}
    (graphs : HasGraphs codes source file)
    (own : event.isOwn codes file = true) :
    ∃ m g, event.moment? = some m ∧ OwnGraph codes source file m.code g := by
  obtain ⟨m, hm, hcode⟩ := (Option.any_eq_true _ _).1 own
  obtain ⟨code, hcode, hfile⟩ := (Option.any_eq_true _ _).1 hcode
  have hfile : code.file = file := of_decide_eq_true hfile
  obtain ⟨g, hg⟩ := graphs code (List.mem_of_getElem? hcode) hfile
  exact ⟨m, g, hm, code, hcode, hfile, hg⟩

namespace Recorder

variable {r : Recorder} {codes : List Code} {source file : String} {n : Nat} {g : CodeGraph}

theorem Traces.exists_graphFor (hr : r.Traces codes source file)
    (own : OwnGraph codes source file n g) :
    ∃ id r', r.graphFor codes n = .ok (⟨id, g⟩, r') := by
  unfold Recorder.graphFor
  split
  · rename_i kept hkept
    obtain rfl := (hr.graphs n kept hkept).unique own
    exact ⟨kept.bodyId, r, rfl⟩
  · obtain ⟨code, hcode, -, hg⟩ := own
    rw [hcode]
    dsimp only
    rw [hr.source_eq, hr.file_eq, hg]
    exact ⟨_, _, rfl⟩

end Recorder

/-! ## A moment that is reported -/

namespace Recording

/-- What every moment that is reported leaves behind, whatever is recorded of it: the output is as
before, and a request to end the script, if there was one, is taken back. -/
structure GoesOn (s t : Recording) : Prop where
  output : t.output = s.output
  quitting : t.quitting = false

variable {s t : Recording} {codes : List Code} {m : Moment} {event : Event}

theorem record_output {position : Position} (h : s.record codes m position = .ok t) :
    t.output = s.output := by
  unfold record at h
  split at h
  · obtain rfl := Except.ok.inj h
    rfl
  · obtain ⟨locals, -, h⟩ := bind_eq_ok_iff.1 h
    obtain ⟨⟨kept, r⟩, -, h⟩ := bind_eq_ok_iff.1 h
    obtain rfl := pure_eq_ok_iff.1 h
    rfl

theorem onLine_goesOn (h : s.onLine codes m = .ok t) : s.GoesOn t := by
  unfold onLine at h
  split at h
  · obtain ⟨⟨kept, r⟩, -, h⟩ := bind_eq_ok_iff.1 h
    obtain ⟨l, -, h⟩ := bind_eq_ok_iff.1 h
    obtain ⟨u, hu, h⟩ := bind_eq_ok_iff.1 h
    obtain rfl := pure_eq_ok_iff.1 h
    exact ⟨record_output (t := u) (s := { s with recorder := r }) hu, rfl⟩
  · obtain rfl := Except.ok.inj h
    exact ⟨rfl, rfl⟩

theorem onException_goesOn (h : s.onException codes m = .ok t) : s.GoesOn t := by
  unfold onException at h
  split at h
  · obtain ⟨u, hu, h⟩ := bind_eq_ok_iff.1 h
    obtain rfl := pure_eq_ok_iff.1 h
    exact ⟨record_output (t := u) hu, rfl⟩
  · obtain rfl := Except.ok.inj h
    exact ⟨rfl, rfl⟩

/-- Once moments are no longer reported nothing comes of them. -/
theorem step_of_untraced (untraced : s.tracing = false) (hm : event.moment? = some m) :
    s.step codes event = .ok s := by
  cases event with
  | print text => cases hm
  | line m => simp [step, untraced]
  | exception m => simp [step, untraced]

theorem goesOn_of_traced (traced : s.tracing = true) (hm : event.moment? = some m)
    (h : s.step codes event = .ok t) : s.GoesOn t := by
  cases event with
  | print text => cases hm
  | line m => exact onLine_goesOn (by simpa only [step, traced, if_true] using h)
  | exception m => exact onException_goesOn (by simpa only [step, traced, if_true] using h)

/-- No event asks for the end of the script, and only what it prints comes out. -/
theorem step_frame (h : s.step codes event = .ok t) :
    t.output = s.output ++ event.printed ∧ (s.quitting = false → t.quitting = false) := by
  cases hm : event.moment? with
  | none =>
    cases event with
    | print text =>
      obtain rfl := Except.ok.inj h
      exact ⟨rfl, id⟩
    | line m => cases hm
    | exception m => cases hm
  | some m =>
    have silent : event.printed = "" := by
      cases event with
      | print text => cases hm
      | line m => rfl
      | exception m => rfl
    rw [silent, String.append_empty]
    cases traced : s.tracing with
    | false =>
      obtain rfl : s = t := Except.ok.inj ((step_of_untraced traced hm).symm.trans h)
      exact ⟨rfl, id⟩
    | true =>
      have goesOn := goesOn_of_traced traced hm h
      exact ⟨goesOn.output, fun _ => goesOn.quitting⟩

end Recording

/-! ## One event -/

namespace Recording

/-- A recording of a script under way: it reports moments until the limit is reached. -/
structure Ready (s : Recording) (codes : List Code) (source file : String) (maxSteps : Int) :
    Prop where
  traces : s.recorder.Traces codes source file
  maxSteps_eq : s.recorder.maxSteps = maxSteps
  limited : s.tracing = false → maxSteps ≤ s.recorder.snapshots.length

variable {s t : Recording} {codes : List Code} {source file : String} {maxSteps : Int}
  {event : Event} {m : Moment} {g : CodeGraph} {position : Position}

theorem Ready.tracing (hs : s.Ready codes source file maxSteps)
    (room : s.recorder.snapshots.length < maxSteps) : s.tracing = true := by
  cases h : s.tracing with
  | true => rfl
  | false => exact absurd (hs.limited h) (by omega)

/-- What makes a recording ready does not depend on what is printed, logged or asked for. -/
theorem Ready.congr (hs : s.Ready codes source file maxSteps) (hr : t.recorder = s.recorder)
    (limited : t.tracing = false → maxSteps ≤ t.recorder.snapshots.length) :
    t.Ready codes source file maxSteps :=
  ⟨hr ▸ hs.traces, hr ▸ hs.maxSteps_eq, limited⟩

/-- To ask for the graph of an own code leaves a recording ready. -/
theorem Ready.graphFor {r : Recorder} {n : Nat} {kept : KeptGraph}
    (hs : s.Ready codes source file maxSteps)
    (own : OwnGraph codes source file n g) (h : s.recorder.graphFor codes n = .ok (kept, r)) :
    ({ s with recorder := r } : Recording).Ready codes source file maxSteps ∧
      r.snapshots = s.recorder.snapshots := by
  obtain ⟨code, hcode, hfile, -⟩ := own
  have traces := (hs.traces.graphFor ⟨code, hcode, hfile⟩ h).2
  rcases Recorder.graphFor_cases h with ⟨-, rfl⟩ | ⟨-, -, -, rfl⟩
  · exact ⟨hs, rfl⟩
  · exact ⟨⟨traces, hs.maxSteps_eq, hs.limited⟩, rfl⟩

/-- Below the limit a moment whose variables can be shown leads to its snapshot. -/
theorem exists_record (hs : s.Ready codes source file maxSteps)
    (room : s.recorder.snapshots.length < maxSteps) (own : OwnGraph codes source file m.code g)
    (hposition : event.At g m position) (shown : m.refusal? = none) :
    ∃ t snapshot, s.record codes m position = .ok t ∧ t.Ready codes source file maxSteps ∧
      t.recorder.snapshots = s.recorder.snapshots ++ [snapshot] ∧
      snapshot.Records t.recorder codes source file event m g := by
  obtain ⟨locals, hlocals, hshown⟩ := exists_shownLocals shown
  obtain ⟨bodyId, r, hgraph⟩ := hs.traces.exists_graphFor own
  obtain ⟨ready, same⟩ := hs.graphFor own hgraph
  have found := Recorder.kept_of_graphFor hgraph
  let snapshot : Snapshot :=
    { bodyId, body := g.body, position, line := m.line, locals }
  let after : Recorder := { r with snapshots := r.snapshots ++ [snapshot] }
  have recorded : s.record codes m position = .ok { s with recorder := after } := by
    rw [record, if_neg (by rw [hs.maxSteps_eq]; omega), hlocals]
    simp only [bind, Except.bind, hgraph]
    rfl
  have traces : Recorder.Traces after codes source file :=
    Recorder.stable_traces codes source file ready.traces
      (.take m.line locals found hposition.reaches)
  refine ⟨{ s with recorder := after }, snapshot, recorded,
    ⟨traces, ready.maxSteps_eq, fun untraced => absurd (hs.limited untraced) (by omega)⟩,
    congrArg (· ++ [snapshot]) same,
    ⟨own, found, hposition, rfl, rfl, hshown⟩⟩

/-- Below the limit a moment whose variables cannot all be shown ends the script. -/
theorem record_of_refusal (hs : s.Ready codes source file maxSteps)
    (room : s.recorder.snapshots.length < maxSteps) {e : ScriptError}
    (refused : m.refusal? = some e) (position : Position) :
    s.record codes m position = .error e := by
  rw [record, if_neg (by rw [hs.maxSteps_eq]; omega), shownLocals_of_refusal refused]
  rfl

theorem owns_of_own (hs : s.recorder.Traces codes source file)
    (own : OwnGraph codes source file m.code g) : s.recorder.owns codes m.code = true := by
  obtain ⟨code, hcode, hfile, -⟩ := own
  simp [Recorder.owns, hcode, hfile, hs.file_eq]

/-- While moments are reported, an own event comes down to taking a snapshot at its position. -/
theorem step_of_own (hs : s.Ready codes source file maxSteps) (tracing : s.tracing = true)
    (hm : event.moment? = some m) (own : OwnGraph codes source file m.code g) :
    ∃ (u : Recording) (position : Position), u.Ready codes source file maxSteps ∧
      u.recorder.snapshots = s.recorder.snapshots ∧ event.At g m position ∧
      s.step codes event = setStep <$> u.record codes m position := by
  have owns := owns_of_own hs.traces own
  cases event with
  | print text => cases hm
  | line m' =>
    obtain rfl : m' = m := Option.some_inj.1 hm
    obtain ⟨bodyId, r, hgraph⟩ := hs.traces.exists_graphFor own
    obtain ⟨ready, same⟩ := hs.graphFor own hgraph
    obtain ⟨l, hl⟩ : ∃ l, g.locationFor m'.offset = .ok l := by
      obtain ⟨code, -, -, hg⟩ := own
      exact CodeGraph.exists_locationFor_of_ne_nil (CodeGraph.keys_ne_nil_of_codeGraph hg) _
    refine ⟨{ s with recorder := r }, .place l, ready, same, .line hl, ?_⟩
    simp only [step, tracing, if_true, onLine, owns, hgraph, hl, Except.mapError, bind, Except.bind]
    cases Recording.record { s with recorder := r } codes m' (.place l) <;> rfl
  | exception m' =>
    obtain rfl : m' = m := Option.some_inj.1 hm
    refine ⟨s, .unwinding, hs, rfl, .exception, ?_⟩
    simp only [step, tracing, if_true, onException, owns]
    cases s.record codes m' .unwinding <;> rfl

/-- An event outside the script changes nothing of what is recorded. -/
theorem step_of_foreign (foreign : event.isOwn codes s.recorder.file = false) :
    ∃ t, s.step codes event = .ok t ∧ t.recorder = s.recorder ∧ t.tracing = s.tracing := by
  cases event with
  | print text => exact ⟨_, rfl, rfl, rfl⟩
  | line m =>
    have owns : s.recorder.owns codes m.code = false := foreign
    cases tracing : s.tracing with
    | false => exact ⟨s, step_of_untraced tracing rfl, rfl, tracing⟩
    | true => exact ⟨s.setStep, by simp [step, tracing, onLine, owns], rfl, tracing⟩
  | exception m =>
    have owns : s.recorder.owns codes m.code = false := foreign
    cases tracing : s.tracing with
    | false => exact ⟨s, step_of_untraced tracing rfl, rfl, tracing⟩
    | true => exact ⟨s.setStep, by simp [step, tracing, onException, owns], rfl, tracing⟩

theorem step_of_shown (hs : s.Ready codes source file maxSteps)
    (room : s.recorder.snapshots.length < maxSteps) (hm : event.moment? = some m)
    (own : OwnGraph codes source file m.code g) (shown : m.refusal? = none) :
    ∃ t snapshot, s.step codes event = .ok t ∧ t.Ready codes source file maxSteps ∧
      t.recorder.snapshots = s.recorder.snapshots ++ [snapshot] ∧
      snapshot.Records t.recorder codes source file event m g := by
  obtain ⟨u, position, hu, hsnapshots, hposition, hstep⟩ := step_of_own hs (hs.tracing room) hm own
  rw [← hsnapshots] at room ⊢
  obtain ⟨t, snapshot, ht, ready, happend, hrecords⟩ := exists_record hu room own hposition shown
  exact ⟨t.setStep, snapshot, by rw [hstep, ht]; rfl, ready.congr rfl ready.limited, happend,
    hrecords⟩

theorem step_of_refusal (hs : s.Ready codes source file maxSteps)
    (room : s.recorder.snapshots.length < maxSteps) (hm : event.moment? = some m)
    (own : OwnGraph codes source file m.code g) {e : ScriptError} (refused : m.refusal? = some e) :
    s.step codes event = .error e := by
  obtain ⟨u, position, hu, hsnapshots, -, hstep⟩ := step_of_own hs (hs.tracing room) hm own
  rw [hstep, record_of_refusal hu (hsnapshots ▸ room) refused]
  rfl

/-- At the limit an own event changes nothing of the snapshots. -/
theorem step_of_limit (hs : s.Ready codes source file maxSteps)
    (full : maxSteps ≤ s.recorder.snapshots.length) (hm : event.moment? = some m)
    (own : OwnGraph codes source file m.code g) :
    ∃ t, s.step codes event = .ok t ∧ t.Ready codes source file maxSteps ∧
      t.recorder.snapshots = s.recorder.snapshots := by
  cases tracing : s.tracing with
  | false => exact ⟨s, step_of_untraced tracing hm, hs, rfl⟩
  | true =>
    obtain ⟨u, position, hu, hsnapshots, -, hstep⟩ := step_of_own hs tracing hm own
    rw [← hsnapshots] at full
    obtain ⟨t, ht, hrecorder, -, -⟩ :=
      record_of_limit (by rw [hu.maxSteps_eq]; exact full) codes m position
    refine ⟨t.setStep, by rw [hstep, ht]; rfl, hu.congr hrecorder fun _ => ?_, ?_⟩
    · simpa only [setStep, hrecorder] using full
    · simpa only [setStep, hrecorder] using hsnapshots

end Recording

end TraceLens
