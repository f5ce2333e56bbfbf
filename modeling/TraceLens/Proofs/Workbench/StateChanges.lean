import TraceLens.Proofs.Pane.History
import TraceLens.Workbench.Rerun

/-!
# What a rerun does to the state

Of all that a rerun does, three things change the state: the controls may record a script and may
clear what is recorded, and the source tab brings the cache of its theme up to date. Everything else
leaves the state as it is, and so does whatever interrupts the rerun.

Main statements: `endsIn_upToSlider` for the controls, `endsIn_snapshotView` for the rest of the
page, and `rerun_changes`, which puts them together.
-/

namespace TraceLens.Workbench

namespace Action

variable {α β ε : Type} {s t : State} {Q R : State → Prop}

/-- Begun in a state, the action leaves one with a property, whether it comes to its end or not. -/
def EndsIn (s : State) (Q : State → Prop) (action : Action α) : Prop :=
  ∀ p : Progress, p.state = s → Q (action.run.run p).2.state

/-- The action leaves the state as it is. -/
def Still (action : Action α) : Prop := ∀ s, EndsIn s (· = s) action

/-! ## Steps one after the other -/

theorem run_bind (action : Action α) (f : α → Action β) (p : Progress) :
    (action >>= f).run.run p = match action.run.run p with
      | (.ok a, q) => (f a).run.run q
      | (.error e, q) => (.error e, q) := by
  simp only [ExceptT.run_bind, StateT.run_bind]
  rcases action.run.run p with ⟨_ | _, _⟩ <;> rfl

/-- The second step is begun in any state that the first one may leave. -/
theorem EndsIn.bind {action : Action α} {f : α → Action β} (first : EndsIn s R action)
    (next : ∀ a t, R t → EndsIn t Q (f a)) (broken : ∀ t, R t → Q t) :
    EndsIn s Q (action >>= f) := by
  intro p hp
  have ended := first p hp
  rw [run_bind]
  rcases h : action.run.run p with ⟨e | a, q⟩ <;> rw [h] at ended
  · exact broken _ ended
  · exact next a _ ended q rfl

theorem Still.endsIn_bind {action : Action α} {f : α → Action β} (first : Still action)
    (next : ∀ a, EndsIn s Q (f a)) (broken : Q s) : EndsIn s Q (action >>= f) :=
  (first s).bind (fun a _ same => same ▸ next a) fun _ same => same ▸ broken

theorem Still.bind {action : Action α} {f : α → Action β} (first : Still action)
    (next : ∀ a, Still (f a)) : Still (action >>= f) := fun s =>
  first.endsIn_bind (fun a => next a s) rfl

theorem Still.endsIn {action : Action α} (still : Still action) (h : Q s) : EndsIn s Q action :=
  fun p hp => by rwa [still s p hp]

theorem EndsIn.bind_still {action : Action α} {f : α → Action β} (first : EndsIn s Q action)
    (next : ∀ a, Still (f a)) : EndsIn s Q (action >>= f) :=
  first.bind (fun a _ ht => (next a).endsIn ht) fun _ ht => ht

theorem endsIn_getState_bind {f : State → Action β} (h : EndsIn s Q (f s)) :
    EndsIn s Q (getState >>= f) := by
  rintro p rfl
  exact h p rfl

theorem endsIn_setState (h : Q t) : EndsIn s Q (setState t) := fun _ _ => h

@[simp] theorem stop_bind (f : α → Action β) : stop >>= f = stop := rfl

@[simp] theorem fail_bind (failure : Failure) (f : α → Action β) :
    fail failure >>= f = fail failure := rfl

/-! ## Steps that leave the state as it is -/

theorem still_pure (a : α) : Still (pure a) := fun _ _ same => same

theorem still_stop : Still (stop : Action α) := fun _ _ same => same

theorem still_fail (failure : Failure) : Still (fail failure : Action α) := fun _ _ same => same

theorem still_ofExcept (e : Except Failure α) : Still (ofExcept e) := by
  cases e with
  | ok a => exact still_pure a
  | error failure => exact still_fail failure

theorem still_put (place : Place) (element : Element) : Still (put place element) :=
  fun _ _ same => same

theorem still_columns (place : Place) (count : Nat) : Still (columns place count) :=
  fun _ _ same => same

theorem still_tabs (place : Place) (labels : List String) : Still (tabs place labels) :=
  fun _ _ same => same

theorem still_tick : Still tick := fun _ _ same => same

theorem still_addLog (log : List LogRecord) : Still (addLog log) := fun _ _ same => same

theorem still_addInvocation (invocation : Option Layout.Invocation) :
    Still (addInvocation invocation) :=
  fun _ _ same => same

theorem still_putDurations (durations : List (Place × String × Option Float)) :
    Still (putDurations durations) := by
  induction durations with
  | nil => exact still_pure ()
  | cons first rest ih => exact (still_put _ _).bind fun _ => ih

theorem still_badge (place : Place) (durations : List (String × Option Float)) :
    Still (badge place durations) :=
  (still_columns _ _).bind fun _ => still_putDurations _

theorem still_putFault (place : Place) (pane : String) (fault : RenderFault) :
    Still (putFault place pane fault) :=
  (still_put _ _).bind fun _ => still_put _ _

/-- To look at the clock before and after some work does not change what becomes of it. -/
theorem EndsIn.timed {work : Action (Except ε α)} (h : EndsIn s Q work) (unbegun : Q s) :
    EndsIn s Q (timed work) := by
  refine still_tick.endsIn_bind (fun start => ?_) unbegun
  refine h.bind (fun result t ht => ?_) fun _ ht => ht
  split
  · exact (still_pure _).endsIn ht
  · refine still_tick.endsIn_bind (fun stop => ?_) ht
    exact (still_ofExcept _).endsIn_bind (fun duration => (still_pure _).endsIn ht) ht

theorem Still.timed {work : Action (Except ε α)} (h : Still work) : Still (timed work) :=
  fun s => (h s).timed rfl

/-! ## The tabs -/

theorem still_graphTab (outside : Surroundings) (settings : Settings) (place : Place)
    (breakpoints : Breakpoints) (snapshot : Snapshot) :
    Still (graphTab outside settings place breakpoints snapshot) := by
  unfold graphTab
  refine Still.bind (Still.timed ?_) fun result => ?_
  · exact (still_addInvocation _).bind fun _ => still_pure _
  · simp only [pure_bind, fail_bind]
    split
    · exact (still_put _ _).bind fun _ => still_badge _ _
    · exact (still_putFault _ _ _).bind fun _ => still_badge _ _
    · exact still_fail _

theorem still_stateTab (place : Place) (snapshot : Snapshot) :
    Still (stateTab place snapshot) := by
  unfold stateTab
  iterate 3 refine (still_put _ _).bind fun _ => ?_
  intro s
  refine endsIn_getState_bind ?_
  dsimp only
  split
  · exact still_put _ _ s
  · exact still_put _ _ s

end Action

/-- What a rerun may do to a state when it shows a snapshot: nothing, or the cache of one theme goes
on to another one that its highlighter leads to. -/
inductive State.Rendered (scan : Scanner) (s : State) : State → Prop
  | same : Rendered scan s s
  | cached {theme : Theme} {cache : HighlightCache}
      (reached : (s.cache theme).Reachable (highlightLines scan theme.styleTable) →
        cache.Reachable (highlightLines scan theme.styleTable)) :
      Rendered scan s (s.storeCache theme cache)

namespace Action

variable {s : State}

theorem endsIn_sourceTab (outside : Surroundings) (settings : Settings) (place : Place)
    (runDuration : Option Float) (snapshot : Snapshot) :
    EndsIn s (s.Rendered outside.scan)
      (sourceTab outside settings place runDuration snapshot) := by
  unfold sourceTab
  refine endsIn_getState_bind ?_
  dsimp only
  refine (endsIn_setState (.cached id)).bind (fun _ t ht => ?_) fun _ ht => ht
  refine (EndsIn.timed ?_ ht).bind_still fun result => ?_
  · let context := paneContext outside settings s
    have rendered (reached : (s.cache settings.theme).Reachable context.highlight) :=
      reached.render snapshot.body snapshot.position
    refine (endsIn_setState (.cached rendered)).bind_still fun _ => ?_
    exact (still_addLog _).bind fun _ => still_pure _
  · simp only [pure_bind, fail_bind]
    split
    · exact (still_put _ _).bind fun _ => (still_put _ _).bind fun _ => still_badge _ _
    · exact (still_putFault _ _ _).bind fun _ => still_badge _ _
    · exact still_fail _

/-- From the slider on the page only renders. -/
theorem endsIn_snapshotView (outside : Surroundings) (user : Choices) (settings : Settings)
    (runDuration : Option Float) :
    EndsIn s (s.Rendered outside.scan) (snapshotView outside user settings runDuration) := by
  unfold snapshotView
  refine endsIn_getState_bind ?_
  simp only [stop_bind, fail_bind]
  split
  · exact ((still_put _ _).bind fun _ => still_stop).endsIn .same
  refine (still_put _ _).endsIn_bind (fun _ => ?_) .same
  split
  · exact (still_fail _).endsIn .same
  refine (still_ofExcept _).endsIn_bind (fun step => ?_) .same
  split
  · exact (still_fail _).endsIn .same
  · rename_i snapshot _
    refine (still_put _ _).endsIn_bind (fun _ => ?_) .same
    refine (still_put _ _).endsIn_bind (fun _ => ?_) .same
    refine (still_tabs _ _).endsIn_bind (fun places => ?_) .same
    refine (still_graphTab _ _ _ _ _).endsIn_bind (fun _ => ?_) .same
    exact (endsIn_sourceTab _ _ _ _ _).bind_still fun _ => still_stateTab _ _

end Action

/-! ## The controls -/

/-- The settings that the user has chosen. -/
def Choices.settings (user : Choices) : Except Failure Settings :=
  settingsOf (user.theme.getD ((Theme.all.map Theme.label).headD ""))
    (user.maxSteps.getD (.integer 2000))

/-- What the editor holds. -/
def Choices.script (user : Choices) : String := user.code.getD initialCode

/-- What the first button may do to a state: nothing, or it has the script recorded. -/
inductive State.Ran (outside : Surroundings) (user : Choices) (s : State) : State → Prop
  | same : Ran outside user s s
  | pressed {settings : Settings} (pressed : "Run & Record" ∈ user.pressed)
      (chosen : user.settings = .ok settings) :
      Ran outside user s (s.record outside.session user.script settings.maxSteps).1

/-- What the controls may do to a state. -/
inductive State.Controlled (outside : Surroundings) (user : Choices) (s : State) : State → Prop
  | ran {t : State} (ran : s.Ran outside user t) : Controlled outside user s t
  | cleared {t : State} (ran : s.Ran outside user t) (pressed : "Clear" ∈ user.pressed) :
      Controlled outside user s t.clear

namespace Action

variable {s : State}

/-- A script that fails to run is told to the user or ends the rerun. -/
theorem endsIn_runScript (outside : Surroundings) (place : Place) (code : String) (maxSteps : Int)
    {Q : State → Prop} (unbegun : Q s) (recorded : Q (s.record outside.session code maxSteps).1) :
    EndsIn s Q (runScript outside place code maxSteps) := by
  unfold runScript
  refine (EndsIn.timed ?_ unbegun).bind_still fun result => ?_
  · refine endsIn_getState_bind ?_
    dsimp only
    refine (endsIn_setState recorded).bind_still fun _ => ?_
    exact (still_addLog _).bind fun _ => still_pure _
  · split
    · exact still_pure _
    · split
      · exact (still_put _ _).bind fun _ => still_pure _
      · exact still_fail _
    · exact still_fail _

theorem endsIn_ofExcept_bind {α β : Type} {Q : State → Prop} {e : Except Failure α}
    {f : α → Action β} (next : ∀ a, e = .ok a → EndsIn s Q (f a)) (broken : Q s) :
    EndsIn s Q (ofExcept e >>= f) := by
  cases e with
  | ok a => exact next a rfl
  | error failure => exact (still_fail failure).endsIn broken

theorem endsIn_button_bind {β : Type} {Q : State → Prop} {user : Choices} {place : Place}
    {label : String} {f : Bool → Action β}
    (next : EndsIn s Q (f (user.pressed.contains label))) :
    EndsIn s Q (button user place label >>= f) :=
  fun p hp => next { p with elements := p.elements ++ [(place, .button label)] } hp

/-- The second button clears what the first one has left. -/
theorem endsIn_clearing {α : Type} {outside : Surroundings} {user : Choices} {t : State}
    (ran : s.Ran outside user t) (place : Place) (result : α) :
    EndsIn t (s.Controlled outside user) (do
      if ← button user place "Clear" then setState (← getState).clear
      return result) := by
  refine endsIn_button_bind ?_
  split
  · rename_i pressed
    refine endsIn_getState_bind ?_
    have cleared := State.Controlled.cleared ran (by simpa using pressed)
    exact (endsIn_setState cleared).bind_still fun _ => still_pure _
  · exact (still_pure _).endsIn (.ran ran)

theorem endsIn_controls (outside : Surroundings) (user : Choices) :
    EndsIn s (s.Controlled outside user) (controls outside user) := by
  unfold controls
  dsimp only
  iterate 4 refine (still_put _ _).endsIn_bind (fun _ => ?_) (.ran .same)
  refine endsIn_ofExcept_bind (fun settings chosen => ?_) (.ran .same)
  refine (still_columns _ _).endsIn_bind (fun places => ?_) (.ran .same)
  refine endsIn_button_bind ?_
  split
  · rename_i pressed
    have recorded : s.Ran outside user (s.record outside.session user.script settings.maxSteps).1 :=
      .pressed (by simpa using pressed) chosen
    refine (endsIn_runScript outside _ _ _ .same recorded).bind (fun duration t ran => ?_)
      fun _ ran => .ran ran
    exact endsIn_clearing ran _ _
  · refine (still_pure none).endsIn_bind (fun duration => ?_) (.ran .same)
    exact endsIn_clearing .same _ _

/-- The page up to where a snapshot is chosen. -/
def upToSlider (outside : Surroundings) (user : Choices) : Action (Settings × Option Float) := do
  put [] (.pageSettings "Step Viewer" "wide")
  put [] (.title "🪜 Step Viewer")
  put [] (.caption
    "Run → Step → CFG with current position  •  Source with the executing span marked")
  controls outside user

theorem page_eq (outside : Surroundings) (user : Choices) :
    page outside user = upToSlider outside user >>= fun (settings, runDuration) =>
      snapshotView outside user settings runDuration := by
  simp only [page, upToSlider, bind_assoc]

theorem endsIn_upToSlider (outside : Surroundings) (user : Choices) :
    EndsIn s (s.Controlled outside user) (upToSlider outside user) := by
  unfold upToSlider
  iterate 3 refine (still_put _ _).endsIn_bind (fun _ => ?_) (.ran .same)
  exact endsIn_controls outside user

end Action

/-! ## The whole page -/

/-- A rerun from a state comes to the slider in a state that has snapshots to choose from. -/
def ReachesSlider (outside : Surroundings) (user : Choices) (s t : State) : Prop :=
  ∃ chosen p, (Action.upToSlider outside user).run.run { state := s, clock := outside.clock } =
    (.ok chosen, p) ∧ p.state = t ∧ t.snapshots ≠ []

/-- A rerun is its controls and then what it renders. -/
theorem rerun_changes (outside : Surroundings) (user : Choices) (s : State) :
    ∃ t, s.Controlled outside user t ∧ t.Rendered outside.scan (rerun outside user s).2.state ∧
      ∀ u, ReachesSlider outside user s u → u = t := by
  have controlled := Action.endsIn_upToSlider (s := s) outside user
    { state := s, clock := outside.clock } rfl
  unfold rerun
  rw [Action.page_eq, Action.run_bind]
  rcases h : (Action.upToSlider outside user).run.run { state := s, clock := outside.clock } with
    ⟨_ | chosen, p⟩ <;> rw [h] at controlled
  · refine ⟨p.state, controlled, .same, ?_⟩
    rintro u ⟨chosen, q, hq, -⟩
    rw [h] at hq
    cases hq
  · refine ⟨p.state, controlled, Action.endsIn_snapshotView _ _ _ _ p rfl, ?_⟩
    rintro u ⟨chosen', q, hq, rfl, -⟩
    rw [h] at hq
    cases hq
    rfl

end TraceLens.Workbench
