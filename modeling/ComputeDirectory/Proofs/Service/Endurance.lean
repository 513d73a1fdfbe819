import ComputeDirectory.Proofs.Attempt
import ComputeDirectory.Proofs.Service.Handling
import ComputeDirectory.Service.Maintenance
import Mathlib.Data.List.Induction

/-!
# Maintenance outlives its failures

However the passes come out, and whenever the task is cancelled, the maintenance loop makes one round
after the other: it rests, makes a pass, and backs off after a pass that failed (`Stands`). Each turn
begins another wait, so no pass ends the loop or keeps it from the next one. Only cancelling ends it,
and then the task gets no further, whatever turns it is given.

A cancellation while the loop backs off is raised where nothing in the loop handles it; it is the
stopping service that takes it for the end that it asked for (`shutdown_of_stands`). So the loop and
the service have to be looked at together.
-/

namespace ComputeDirectory.Service

variable {σ ε α : Type}

/-! ## Rounds -/

/-- What the loop does after a pass: it backs off if the pass failed. -/
def backOff : Except ε α → List (LoopEvent ε α)
  | .ok _ => []
  | .error _ => [.slept backOffSeconds]

/-- One round of the loop: it rests, makes a pass, and backs off if the pass failed. -/
def round (interval : Int) (outcome : Except ε α) : List (LoopEvent ε α) :=
  .slept interval :: .ran outcome :: backOff outcome

/-- What a task has done when it waits in a phase, by the outcomes of its passes: whole rounds, and at
rest the beginning of another one. -/
inductive Stands (interval : Int) : Phase ε → List (Except ε α) → List (LoopEvent ε α) → Prop
  | created : Stands interval .created [] []
  | resting (outcomes : List (Except ε α)) :
      Stands interval .resting outcomes (outcomes.flatMap (round interval) ++ [.slept interval])
  | backingOff (outcomes : List (Except ε α)) (e : ε) :
      Stands interval .backingOff (outcomes ++ [Except.error e])
        ((outcomes ++ [Except.error e]).flatMap (round interval))

namespace Stands

variable {interval : Int} {phase : Phase ε} {outcomes : List (Except ε α)}
  {events : List (LoopEvent ε α)}

theorem phase_eq (h : Stands interval phase outcomes events) :
    phase = .created ∨ phase = .resting ∨ phase = .backingOff := by
  cases h <;> simp

/-- What is done so far is the beginning of rounds, whatever comes of the next pass. -/
theorem isPrefix (h : Stands interval phase outcomes events) (next : Except ε α) :
    ∃ more, events <+: (outcomes ++ more).flatMap (round interval) := by
  cases h with
  | created => exact ⟨[], List.prefix_refl _⟩
  | resting =>
    refine ⟨[next], ?_⟩
    rw [List.flatMap_append, List.flatMap_singleton]
    exact (List.prefix_append_right_inj _).2 ⟨_, rfl⟩
  | backingOff earlier e => exact ⟨[], [], by rw [List.append_nil, List.append_nil]⟩

/-- A cancellation ends the loop, and nothing but the cancellation leaves it. -/
theorem raise_cancelled (h : Stands interval phase outcomes events) :
    phase.raise .cancelled = .ended (.ok ()) ∨ phase.raise .cancelled = .ended (.error .cancelled) := by
  cases h with
  | created => exact .inr rfl
  | resting => exact .inl rfl
  | backingOff earlier e => exact .inr rfl

end Stands

namespace LoopTask

variable {interval : Int} {pass : Moment → Attempt ε σ α} {t : LoopTask σ ε α}

@[simp] theorem outcomes_enter (interval : Int) (phase : Phase ε) (t : LoopTask σ ε α) :
    (t.enter interval phase).outcomes = t.outcomes := by
  rw [outcomes, enter, List.filterMap_append]
  cases phase <;> simp [Phase.wait?, outcomes]

@[simp] theorem waits_enter (interval : Int) (phase : Phase ε) (t : LoopTask σ ε α) :
    (t.enter interval phase).waits = t.waits ++ (phase.wait? interval).toList := by
  rw [waits, enter, List.filterMap_append]
  cases phase <;> simp [Phase.wait?, waits]

@[simp] theorem outcomes_note (result : Except ε α × σ) (t : LoopTask σ ε α) :
    (t.note result).outcomes = t.outcomes ++ [result.1] :=
  List.filterMap_append

@[simp] theorem waits_note (result : Except ε α × σ) (t : LoopTask σ ε α) :
    (t.note result).waits = t.waits :=
  List.filterMap_append.trans (List.append_nil _)

@[simp] theorem outcomes_wait (seconds : Int) (t : LoopTask σ ε α) :
    (t.wait seconds).outcomes = t.outcomes := rfl

@[simp] theorem waits_wait (seconds : Int) (t : LoopTask σ ε α) :
    (t.wait seconds).waits = t.waits := rfl

theorem resume_of_created (h : t.phase = .created) (turn : Option Int) :
    t.resume interval pass turn = t.enter interval .resting := by
  rw [resume, h]

theorem resume_of_resting (h : t.phase = .resting) (turn : Option Int) :
    t.resume interval pass turn = (t.wait (turn.getD interval)).makePass interval pass := by
  rw [resume, h]

theorem resume_of_backingOff (h : t.phase = .backingOff) (turn : Option Int) :
    t.resume interval pass turn = (t.wait (turn.getD backOffSeconds)).enter interval .resting := by
  rw [resume, h]

theorem resume_of_ended {outcome : Except (Raised ε) Unit} (h : t.phase = .ended outcome)
    (turn : Option Int) : t.resume interval pass turn = t := by
  rw [resume, h]

theorem makePass_of_ok {a : α} {s : σ} (h : pass t.now t.state = (.ok a, s)) :
    t.makePass interval pass = (t.note (.ok a, s)).enter interval .resting := by
  rw [makePass, h]

theorem makePass_of_error (hphase : t.phase = .resting) {e : ε} {s : σ}
    (h : pass t.now t.state = (.error e, s)) :
    t.makePass interval pass = (t.note (.error e, s)).enter interval .backingOff := by
  rw [makePass, h, hphase]
  rfl

/-- A pass after a rest completes a round, but for the wait after it. -/
theorem events_note (h : t.events = t.outcomes.flatMap (round interval) ++ [.slept interval])
    (result : Except ε α × σ) : (t.note result).events ++ backOff result.1 =
      (t.note result).outcomes.flatMap (round interval) := by
  rw [outcomes_note, note, h]
  simp [round]

theorem stands_enter_resting (h : t.events = t.outcomes.flatMap (round interval)) :
    Stands interval (t.enter interval .resting).phase (t.enter interval .resting).outcomes
      (t.enter interval .resting).events := by
  rw [outcomes_enter, enter, h]
  exact .resting _

theorem stands_enter_backingOff {outcomes : List (Except ε α)} {e : ε}
    (houtcomes : t.outcomes = outcomes ++ [.error e])
    (h : t.events ++ [.slept backOffSeconds] = t.outcomes.flatMap (round interval)) :
    Stands interval (t.enter interval .backingOff).phase (t.enter interval .backingOff).outcomes
      (t.enter interval .backingOff).events := by
  rw [outcomes_enter, enter, Phase.wait?, Option.toList_some, List.map_singleton, h, houtcomes]
  exact .backingOff _ e

theorem stands_makePass (hphase : t.phase = .resting)
    (h : t.events = t.outcomes.flatMap (round interval) ++ [.slept interval]) :
    Stands interval (t.makePass interval pass).phase (t.makePass interval pass).outcomes
        (t.makePass interval pass).events ∧
      (t.makePass interval pass).waits.length = t.waits.length + 1 := by
  have hround := events_note h (pass t.now t.state)
  rcases hpass : pass t.now t.state with ⟨e | a, s⟩
  · rw [hpass] at hround
    rw [makePass_of_error hphase hpass]
    refine ⟨stands_enter_backingOff (outcomes_note ..) hround, ?_⟩
    simp [Phase.wait?]
  · rw [hpass, backOff, List.append_nil] at hround
    rw [makePass_of_ok hpass]
    refine ⟨stands_enter_resting hround, ?_⟩
    simp [Phase.wait?]

/-- A task that stands in its rounds has not ended: a turn leads it on to one more wait. -/
theorem stands_resume (h : Stands interval t.phase t.outcomes t.events) (turn : Option Int) :
    Stands interval (t.resume interval pass turn).phase (t.resume interval pass turn).outcomes
        (t.resume interval pass turn).events ∧
      (t.resume interval pass turn).waits.length = t.waits.length + 1 := by
  generalize hphase : t.phase = phase at h
  generalize houtcomes : t.outcomes = outcomes at h
  generalize hevents : t.events = events at h
  cases h with
  | created =>
    rw [resume_of_created hphase]
    refine ⟨stands_enter_resting ?_, by simp [Phase.wait?]⟩
    rw [hevents, houtcomes, List.flatMap_nil]
  | resting =>
    rw [resume_of_resting hphase, ← waits_wait (turn.getD interval) t]
    refine stands_makePass hphase ?_
    rw [outcomes_wait, houtcomes]
    exact hevents
  | backingOff earlier e =>
    rw [resume_of_backingOff hphase]
    refine ⟨stands_enter_resting ?_, by simp [Phase.wait?]⟩
    rw [outcomes_wait, houtcomes]
    exact hevents

/-- However many turns a new task gets, it stands in its rounds, and each turn has begun a wait. -/
theorem stands_run (interval : Int) (pass : Moment → Attempt ε σ α) (turns : List (Option Int))
    (now : Moment) (state : σ) :
    Stands interval ((create now state).run interval pass turns).phase
        ((create now state).run interval pass turns).outcomes
        ((create now state).run interval pass turns).events ∧
      ((create now state).run interval pass turns).waits.length = turns.length := by
  -- on the turns from the last one back, as a turn adds to what was done before it
  induction turns using List.reverseRecOn with
  | nil => exact ⟨.created, rfl⟩
  | append_singleton turns turn ih =>
    obtain ⟨hstands, hwaits⟩ := ih
    rw [run, List.foldl_append, List.length_append, ← hwaits]
    exact stands_resume hstands turn

/-! ## One more pass -/

/-- A rest ends with a pass. -/
theorem outcomes_resume_of_resting (h : t.phase = .resting) (turn : Option Int) :
    (t.resume interval pass turn).outcomes =
      t.outcomes ++ [(pass (t.wait (turn.getD interval)).now t.state).1] := by
  rw [resume_of_resting h, makePass, outcomes_enter, outcomes_note, outcomes_wait]
  rfl

/-- Without a rest before it, a turn brings no pass. -/
theorem outcomes_resume_of_not_resting (h : t.phase ≠ .resting) (turn : Option Int) :
    (t.resume interval pass turn).outcomes = t.outcomes := by
  cases hphase : t.phase with
  | created => rw [resume_of_created hphase, outcomes_enter]
  | resting => exact absurd hphase h
  | backingOff => rw [resume_of_backingOff hphase, outcomes_enter, outcomes_wait]
  | ended outcome => rw [resume_of_ended hphase]

theorem length_outcomes_resume (t : LoopTask σ ε α) (turn : Option Int) :
    t.outcomes.length ≤ (t.resume interval pass turn).outcomes.length := by
  by_cases hphase : t.phase = .resting
  · rw [outcomes_resume_of_resting hphase, List.length_append]
    exact Nat.le_add_right ..
  · exact Nat.le_of_eq (congrArg List.length (outcomes_resume_of_not_resting hphase turn).symm)

/-- Two turns of a task that has not ended bring a pass. -/
theorem outcomes_lt_of_stands (h : Stands interval t.phase t.outcomes t.events)
    (turn turn' : Option Int) :
    t.outcomes.length < (t.run interval pass [turn, turn']).outcomes.length := by
  -- a task that does not rest does so after one turn
  have hrested (hnext : (t.resume interval pass turn).phase = .resting) :
      t.outcomes.length < (t.run interval pass [turn, turn']).outcomes.length := by
    calc t.outcomes.length
      _ ≤ (t.resume interval pass turn).outcomes.length := length_outcomes_resume t turn
      _ < ((t.resume interval pass turn).resume interval pass turn').outcomes.length := by
        rw [outcomes_resume_of_resting hnext, List.length_append]
        exact Nat.lt_succ_self _
  rcases h.phase_eq with hphase | hphase | hphase
  · exact hrested (by rw [resume_of_created hphase]; rfl)
  · refine Nat.lt_of_lt_of_le ?_ (length_outcomes_resume (t.resume interval pass turn) turn')
    rw [outcomes_resume_of_resting hphase, List.length_append]
    exact Nat.lt_succ_self _
  · exact hrested (by rw [resume_of_backingOff hphase]; rfl)

/-! ## Cancelling -/

theorem run_of_ended {outcome : Except (Raised ε) Unit} (h : t.phase = .ended outcome)
    (turns : List (Option Int)) : t.run interval pass turns = t := by
  induction turns with
  | nil => rfl
  | cons turn turns ih =>
    rw [run, List.foldl_cons, resume_of_ended h]
    exact ih

/-- A task that was cancelled gets no further, whatever turns it is given. -/
theorem run_cancel (h : Stands interval t.phase t.outcomes t.events) (turns : List (Option Int)) :
    t.cancel.run interval pass turns = t.cancel := by
  rcases h.raise_cancelled with hended | hended
  · exact run_of_ended hended turns
  · exact run_of_ended hended turns

/-- The stopping service cancels the task, sees nothing raised but that, and drops the handle. -/
theorem shutdown_of_stands (h : Stands interval t.phase t.outcomes t.events) :
    shutdown (some t) = some (.ok (), none) := by
  rcases h.raise_cancelled with hended | hended
  · rw [shutdown, cancel, hended]
  · rw [shutdown, cancel, hended]

end LoopTask

/-! ## What a pass sweeps -/

section

variable {τ : Type} {d : Deployment τ} {s : Settings}

open Attempt (Keeps)

theorem connect_keeps (d : Deployment τ) (s : Settings) (session : Identity.Session) :
    (d.connect s).Keeps (fun state => state.session = session) fun _ => True := by
  intro state hstate
  refine ⟨?_, fun _ _ => trivial⟩
  by_cases hconnects : d.Connects s state
  · rw [connect_of_connects hconnects]
    exact hstate
  · obtain ⟨f, -, hfails⟩ := connect_of_not_connects hconnects
    rw [hfails]
    exact hstate

/-- Taking providers offline leaves the session alone, whatever comes of it. -/
theorem markProviders_keeps (d : Deployment τ) (now : Moment) (session : Identity.Session) :
    (markProviders d now).Keeps (fun state => state.session = session) fun _ => True := by
  have hprepare : d.prepareRegistry.Keeps (fun state => state.session = session) fun _ => True := by
    refine Keeps.bind (Keeps.ofExcept fun _ _ => trivial) fun s _ => ?_
    exact Keeps.bind (connect_keeps d s session) fun _ _ => Keeps.pure trivial
  refine Keeps.bind hprepare fun s _ => ?_
  intro state hstate
  exact ⟨hstate, fun _ _ => trivial⟩

/-- A pass leaves the session as the sweep leaves it, which comes first. -/
theorem maintain_session (d : Deployment τ) (now : Moment) (state : State τ) :
    (maintain d now state).2.session = (sweepChallenges d now state).2.session := by
  rw [maintain, Attempt.bind_apply]
  rcases sweepChallenges d now state with ⟨f | swept, swept_state⟩
  · rfl
  · have hmarks : (markProviders d now >>= fun marked =>
        (pure ⟨swept, marked⟩ : Attempt Failure (State τ) MaintenanceReport)).Keeps
          (fun state => state.session = swept_state.session) fun _ => True :=
      Keeps.bind (markProviders_keeps d now _) fun _ _ => Keeps.pure trivial
    exact (hmarks swept_state rfl).1

theorem sweepChallenges_of_ok (hs : d.settings = .ok s) {policy : Identity.Session.Policy}
    (hpolicy : d.sessionPolicy s = .ok policy) (now : Moment) {state : State τ}
    (hconnects : d.Connects s state) :
    (sweepChallenges d now state).2.session =
      (Identity.Session.sweep policy now state.session).2 := by
  have hprepare : d.prepareSession state =
      (.ok (s, policy), { state with connected := state.connected || s.usesTable }) :=
    (prepareSession_of_ok hs hpolicy state).trans
      (Attempt.bind_of_ok (connect_of_connects hconnects))
  rw [sweepChallenges, Attempt.bind_of_ok hprepare]
  rfl

/-- When the session cannot be put together, the pass fails before it does anything. -/
theorem maintain_of_prepareSession {now : Moment} {state : State τ} {f : Failure}
    (h : d.prepareSession state = (.error f, state)) : maintain d now state = (.error f, state) := by
  have hsweep : sweepChallenges d now state = (.error f, state) := Attempt.bind_of_error h
  exact Attempt.bind_of_error hsweep

theorem prepareSession_of_not_connects (hs : d.settings = .ok s)
    {policy : Identity.Session.Policy} (hpolicy : d.sessionPolicy s = .ok policy)
    {state : State τ} (h : ¬ d.Connects s state) :
    ∃ f, d.connection = .error f ∧ d.prepareSession state = (.error f, state) := by
  obtain ⟨f, hconnection, hfails⟩ := connect_of_not_connects h
  exact ⟨f, hconnection,
    (prepareSession_of_ok hs hpolicy state).trans (Attempt.bind_of_error hfails)⟩

end

/-! ## Main statement -/

/-- What holds of a task after some turns, whatever its passes do. -/
structure Endures (interval : Int) (pass : Moment → Attempt ε σ α) (turns : List (Option Int))
    (t : LoopTask σ ε α) : Prop where
  /-- It has made the beginning of rounds, in which the outcomes are those of the passes. -/
  rounds : ∃ more, t.events <+: (t.outcomes ++ more).flatMap (round interval)
  alive : ∀ outcome, t.phase ≠ .ended outcome
  /-- Every turn has begun another wait. -/
  pace : t.waits.length = turns.length
  /-- After a pass that failed as after any other, two turns bring the next one. -/
  next : ∀ turn turn', t.outcomes.length < (t.run interval pass [turn, turn']).outcomes.length
  /-- Cancelled now, it does nothing more. -/
  halts : ∀ later, t.cancel.run interval pass later = t.cancel ∧ t.cancel.events = t.events
  /-- If the service stops now, nothing is raised by that and no handle is left. -/
  stops : shutdown (some t) = some (.ok (), none)

/-- How a deployment runs its maintenance. -/
structure Deployment.Maintains {τ : Type} (d : Deployment τ) (s : Settings) : Prop where
  /-- It starts, keeps the task of the loop of its passes, and stops without it. -/
  serves : ∀ turns now state, ∃ life, Lifespan.ofTurns d turns now state = .ok life ∧
    life.task =
      (if s.maintenanceEnabled then some (maintenanceTask d s turns now state) else none) ∧
    shutdown life.task = some (.ok (), none) ∧ life.taskAfter = none
  /-- Every pass sweeps the session, whatever comes of taking providers offline. -/
  sweeps : ∀ policy now state, d.sessionPolicy s = .ok policy → d.Connects s state →
    (maintain d now state).2.session = (Identity.Session.sweep policy now state.session).2
  /-- Settings with which there is no session make every pass fail, and nothing is to be swept. -/
  sessionless : ∀ f now state, d.sessionPolicy s = .error f →
    maintain d now state = (.error f, state)
  /-- While the table service cannot be connected, no session is put together, either. -/
  unconnected : ∀ policy now state, d.sessionPolicy s = .ok policy → ¬ d.Connects s state →
    ∃ f, d.connection = .error f ∧ maintain d now state = (.error f, state)

theorem endures_run (interval : Int) (pass : Moment → Attempt ε σ α) (turns : List (Option Int))
    (now : Moment) (state : σ) :
    Endures interval pass turns ((LoopTask.create now state).run interval pass turns) := by
  obtain ⟨hstands, hpace⟩ := LoopTask.stands_run interval pass turns now state
  exact {
    rounds := hstands.isPrefix (pass now state).1
    alive := by
      intro outcome hended
      rw [hended] at hstands
      cases hstands
    pace := hpace
    next := LoopTask.outcomes_lt_of_stands hstands
    halts := fun later => ⟨LoopTask.run_cancel hstands later, rfl⟩
    stops := LoopTask.shutdown_of_stands hstands }

section

variable {τ : Type} {d : Deployment τ} {s : Settings}

theorem Lifespan.ofTurns_of_enabled (hs : d.settings = .ok s) (h : s.maintenanceEnabled = true)
    (turns : List (Option Int)) (now : Moment) (state : State τ) :
    Lifespan.ofTurns d turns now state =
      .ok ⟨some (maintenanceTask d s turns now state), (maintenanceTask d s turns now state).now,
        (maintenanceTask d s turns now state).state⟩ := by
  rw [ofTurns, hs]
  exact congrArg Except.ok (if_pos h)

theorem Lifespan.ofTurns_of_disabled (hs : d.settings = .ok s) (h : s.maintenanceEnabled = false)
    (turns : List (Option Int)) (now : Moment) (state : State τ) :
    Lifespan.ofTurns d turns now state = .ok ⟨none, now, state⟩ := by
  rw [ofTurns, hs]
  exact congrArg Except.ok (if_neg (by rw [h]; exact Bool.false_ne_true))

theorem Lifespan.taskAfter_of_shutdown {life : Lifespan τ}
    {outcome : Except (Raised Failure) Unit} {kept : Option (MaintenanceTask τ)}
    (h : shutdown life.task = some (outcome, kept)) : life.taskAfter = kept := by
  rw [taskAfter, h]

theorem Deployment.maintains (hs : d.settings = .ok s) : d.Maintains s where
  serves turns now state := by
    cases henabled : s.maintenanceEnabled with
    | false =>
      have hstops : shutdown (none : Option (MaintenanceTask τ)) = some (.ok (), none) := rfl
      exact ⟨_, Lifespan.ofTurns_of_disabled hs henabled turns now state, rfl, hstops,
        Lifespan.taskAfter_of_shutdown hstops⟩
    | true =>
      have hstops : shutdown (some (maintenanceTask d s turns now state)) = some (.ok (), none) :=
        (endures_run s.sweepInterval (maintain d) turns now state).stops
      exact ⟨_, Lifespan.ofTurns_of_enabled hs henabled turns now state, rfl, hstops,
        Lifespan.taskAfter_of_shutdown hstops⟩
  sweeps policy now state hpolicy hconnects := by
    rw [maintain_session, sweepChallenges_of_ok hs hpolicy now hconnects]
  sessionless f now state hpolicy :=
    maintain_of_prepareSession (prepareSession_of_error hs hpolicy state)
  unconnected policy now state hpolicy hconnects := by
    obtain ⟨f, hconnection, hfails⟩ := prepareSession_of_not_connects hs hpolicy hconnects
    exact ⟨f, hconnection, maintain_of_prepareSession hfails⟩

end

/-- Maintenance outlives its failures and stops only when the service does. Whatever passes do and
however often the loop gets its turn, it makes the beginning of rounds of a rest, a pass and, after a
failure, a back-off; no failure ends it or keeps it from the next pass; and cancelled at any point it
does nothing more, and the service stops without a failure and without the task. This is how a
deployment runs its passes, each of which sweeps the session even when the rest of it fails. -/
theorem maintenance_outlives_failures {τ : Type} (d : Deployment τ) {s : Settings}
    (hs : d.settings = .ok s) :
    (∀ {σ ε α : Type} (interval : Int) (pass : Moment → Attempt ε σ α) (turns : List (Option Int))
      (now : Moment) (state : σ),
      Endures interval pass turns ((LoopTask.create now state).run interval pass turns)) ∧
    d.Maintains s :=
  ⟨endures_run, Deployment.maintains hs⟩

/-- A pass that fails the first time, and then counts how often it was made. -/
def samplePass (_ : Moment) : Attempt Unit Nat Nat := fun made =>
  (if made = 0 then .error () else .ok made, made + 1)

/-- With maintenance enabled by the environment. The loop gets control five times, and its first pass
fails. -/
theorem maintenance_outlives_failures_sample :
    ∃ s, (sampleDeployment [("MAINTENANCE_ENABLED", "true")]).settings = .ok s ∧
      s.maintenanceEnabled = true ∧
      (sampleDeployment [("MAINTENANCE_ENABLED", "true")]).Maintains s ∧
      let t := (LoopTask.create 0 0).run 60 samplePass [none, none, none, none, some 90]
      Endures 60 samplePass [none, none, none, none, some 90] t ∧
      t.events = [.slept 60, .ran (.error ()), .slept 5, .slept 60, .ran (.ok 1), .slept 60,
        .ran (.ok 2), .slept 60] := by
  obtain ⟨s, hs, henabled⟩ : ∃ s, (sampleDeployment [("MAINTENANCE_ENABLED", "true")]).settings =
      .ok s ∧ s.maintenanceEnabled = true := by
    refine exists_settings ?_
    decide +kernel
  obtain ⟨hendures, hmaintains⟩ :=
    maintenance_outlives_failures (sampleDeployment [("MAINTENANCE_ENABLED", "true")]) hs
  exact ⟨s, hs, henabled, hmaintains, hendures _ _ _ _ _, rfl⟩

end ComputeDirectory.Service
