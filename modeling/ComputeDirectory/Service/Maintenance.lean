import ComputeDirectory.Service.State

/-!
# Maintenance

A maintenance pass sweeps the challenges and takes silent providers offline. The loop rests for the
sweep interval, makes a pass, and after a pass that failed backs off for a while before it rests
again; no failure of a pass ends it. It runs in a task of its own, which gets control whenever its
wait is over, and ends when it is cancelled: cancelled at rest it returns by itself; cancelled before
it has run, or while it backs off, it passes the cancellation on.

The service starts the task and keeps a handle of it. When it stops it cancels the task and waits for
its end; that the task was cancelled is then no failure, and any other failure would be one.
-/

namespace ComputeDirectory.Service

variable {σ τ ε α : Type}

/-! ## One pass -/

/-- What a maintenance pass did. -/
structure MaintenanceReport where
  /-- How many challenges and markers were dropped. -/
  swept : Nat
  /-- The providers that were taken offline. -/
  markedOffline : List Text
  deriving DecidableEq, Repr

/-- Writes the report of a pass. -/
def MaintenanceReport.toJson (r : MaintenanceReport) : Json :=
  .obj [("challenges_swept", .int r.swept),
    ("providers_marked_offline", .arr (r.markedOffline.map .str))]

/-- Sweeps the challenges of a deployment, and counts what was dropped. -/
def sweepChallenges (d : Deployment τ) (now : Moment) : Attempt Failure (State τ) Nat := do
  let (_, policy) ← d.prepareSession
  onSession (Identity.Session.sweep policy now)

/-- Takes the silent providers of a deployment offline, and names them. -/
def markProviders (d : Deployment τ) (now : Moment) : Attempt Failure (State τ) (List Text) := do
  let s ← d.prepareRegistry
  onStores (Registry.markStale (d.providerStore s now) (Deployment.registryPolicy s) now)

/-- One pass: challenges first, then providers. -/
def maintain (d : Deployment τ) (now : Moment) : Attempt Failure (State τ) MaintenanceReport := do
  let swept ← sweepChallenges d now
  let marked ← markProviders d now
  return ⟨swept, marked⟩

/-! ## The loop -/

/-- What is raised in the loop: the failure of a pass, or the cancellation of the task. -/
inductive Raised (ε : Type)
  | failed (e : ε)
  | cancelled

/-- Where the task of the loop is. -/
inductive Phase (ε : Type)
  /-- It was created and has not run yet. -/
  | created
  /-- Between two passes. -/
  | resting
  /-- After a pass that failed. -/
  | backingOff
  /-- The loop has returned, or what was raised has left it. -/
  | ended (outcome : Except (Raised ε) Unit)

/-- Seconds for which the loop backs off. -/
def backOffSeconds : Int := 5

/-- For how many seconds the loop waits in a phase, if it waits there. -/
def Phase.wait? (interval : Int) : Phase ε → Option Int
  | resting => some interval
  | backingOff => some backOffSeconds
  | created | ended _ => none

/-- Where the loop goes when something is raised. It handles what is raised while it rests or makes a
pass, and nothing that is raised while it handles a failure. -/
def Phase.raise (r : Raised ε) : Phase ε → Phase ε
  | resting =>
    match r with
    | .failed _ => backingOff
    | .cancelled => ended (.ok ())
  | created | backingOff => ended (.error r)
  | ended outcome => ended outcome

/-- What the loop did. -/
inductive LoopEvent (ε α : Type)
  | slept (seconds : Int)
  | ran (outcome : Except ε α)

/-- A task that runs the loop. -/
structure LoopTask (σ ε α : Type) where
  phase : Phase ε
  /-- What the loop did, the oldest first. A wait counts from its beginning. -/
  events : List (LoopEvent ε α)
  now : Moment
  state : σ

namespace LoopTask

/-- A new task, which waits for its first turn. -/
def create (now : Moment) (state : σ) : LoopTask σ ε α := ⟨.created, [], now, state⟩

/-- Goes to a phase and begins to wait there. -/
def enter (interval : Int) (phase : Phase ε) (t : LoopTask σ ε α) : LoopTask σ ε α :=
  { t with phase, events := t.events ++ (phase.wait? interval).toList.map .slept }

/-- Lets some seconds pass. -/
def wait (seconds : Int) (t : LoopTask σ ε α) : LoopTask σ ε α :=
  { t with now := t.now.after seconds }

/-- Notes the outcome of a pass, and goes on with the state that it left. -/
def note (result : Except ε α × σ) (t : LoopTask σ ε α) : LoopTask σ ε α :=
  { t with state := result.2, events := t.events ++ [.ran result.1] }

/-- Makes a pass, and waits after it. -/
def makePass (interval : Int) (pass : Moment → Attempt ε σ α) (t : LoopTask σ ε α) :
    LoopTask σ ε α :=
  let result := pass t.now t.state
  let next : Phase ε :=
    match result.1 with
    | .ok _ => .resting
    | .error e => t.phase.raise (.failed e)
  (t.note result).enter interval next

/-- Gives control to the task, whose wait is over, until it waits again. The turn says how many
seconds have passed, if they are not those for which the task meant to wait. -/
def resume (interval : Int) (pass : Moment → Attempt ε σ α) (t : LoopTask σ ε α)
    (turn : Option Int) : LoopTask σ ε α :=
  match t.phase with
  | .created => t.enter interval .resting
  | .resting => (t.wait (turn.getD interval)).makePass interval pass
  | .backingOff => (t.wait (turn.getD backOffSeconds)).enter interval .resting
  | .ended _ => t

/-- Gives the task one turn after the other. -/
def run (interval : Int) (pass : Moment → Attempt ε σ α) (turns : List (Option Int))
    (t : LoopTask σ ε α) : LoopTask σ ε α :=
  turns.foldl (resume interval pass) t

/-- Cancels the task: the cancellation is raised where it waits. -/
def cancel (t : LoopTask σ ε α) : LoopTask σ ε α := { t with phase := t.phase.raise .cancelled }

/-- The waits of the loop. -/
def waits (t : LoopTask σ ε α) : List Int :=
  t.events.filterMap fun
    | .slept seconds => some seconds
    | .ran _ => none

/-- The outcomes of the passes. -/
def outcomes (t : LoopTask σ ε α) : List (Except ε α) :=
  t.events.filterMap fun
    | .slept _ => none
    | .ran outcome => some outcome

end LoopTask

/-- How a loop ends that is cancelled: it returns by itself, or it passes on what was raised. -/
inductive Ending
  | returned
  | cancelled
  deriving DecidableEq, Repr

/-- The end of a loop that is cancelled in a phase. -/
def Phase.ending (phase : Phase ε) : Ending :=
  match phase.raise .cancelled with
  | .ended (.ok _) => .returned
  | .created | .resting | .backingOff | .ended (.error _) => .cancelled

/-- The task of a maintenance loop. -/
abbrev MaintenanceTask (τ : Type) := LoopTask (State τ) Failure MaintenanceReport

/-- The maintenance task of a deployment with some settings, after some turns. -/
def maintenanceTask (d : Deployment τ) (s : Settings) (turns : List (Option Int)) (now : Moment)
    (state : State τ) : MaintenanceTask τ :=
  (LoopTask.create now state).run s.sweepInterval (maintain d) turns

/-- Runs the maintenance loop of a deployment, whose settings have to be in order, through its first
turn and some more, until it is cancelled. -/
def maintenanceLoop (d : Deployment τ) (wakes : List (Option Int)) (now : Moment)
    (state : State τ) : Except Failure (MaintenanceTask τ) :=
  d.settings.map fun s => maintenanceTask d s (none :: wakes) now state

/-! ## The life of the service -/

/-- What was seen of the maintenance task until the service is stopped. -/
structure Lifespan (τ : Type) where
  /-- The task whose handle the service keeps, if it was started. -/
  task : Option (MaintenanceTask τ)
  now : Moment
  state : State τ

/-- Starts the service and lets it run. If maintenance is enabled a task is created, which gets some
turns while the service runs. -/
def Lifespan.ofTurns (d : Deployment τ) (turns : List (Option Int)) (now : Moment) (state : State τ) :
    Except Failure (Lifespan τ) :=
  d.settings.map fun s =>
    if s.maintenanceEnabled then
      let task := maintenanceTask d s turns now state
      ⟨some task, task.now, task.state⟩
    else ⟨none, now, state⟩

/-- Stops the task whose handle is kept: it is cancelled, and its end awaited. Gives what is raised by
that and the handle that is left. A task that does not end is awaited for ever. -/
def shutdown (task : Option (LoopTask σ ε α)) :
    Option (Except (Raised ε) Unit × Option (LoopTask σ ε α)) :=
  match task with
  | none => some (.ok (), none)
  | some t =>
    match t.cancel.phase with
    | .ended (.ok _) | .ended (.error .cancelled) => some (.ok (), none)
    -- the handle is dropped only after the wait
    | .ended (.error (.failed e)) => some (.error (.failed e), some t.cancel)
    | .created | .resting | .backingOff => none

/-- The task that is left when the service was stopped. -/
def Lifespan.taskAfter (l : Lifespan τ) : Option (MaintenanceTask τ) :=
  match shutdown l.task with
  | some (_, kept) => kept
  | none => l.task

/-- Starts the service, lets the loop run through its first turn and some more if maintenance is
enabled, and stops the service. -/
def lifespan (d : Deployment τ) (wakes : List (Option Int)) (now : Moment) (state : State τ) :
    Except Failure (Lifespan τ) :=
  Lifespan.ofTurns d (none :: wakes) now state

end ComputeDirectory.Service
