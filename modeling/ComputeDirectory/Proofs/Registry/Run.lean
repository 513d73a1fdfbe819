import ComputeDirectory.Proofs.Attempt
import ComputeDirectory.Proofs.Run
import ComputeDirectory.Registry.Basic

/-!
# Runs of a registry

A run is a list of calls, each with the moment at which it is made; moments are free to go back. The
store may depend on the moment, as a store of rows does that fills in missing times. `steps` is what
happens in a run, one `Step` for each call, and `final` is what is left after it.

Statements about runs come from statements about calls: `keeps_run` for what every call keeps, and
`run_agrees` for two stores that answer alike.
-/

namespace ComputeDirectory.Registry

open Provider (Record Registration ReputationChange Status)

/-- A call that may write to the store. -/
inductive Call
  | register (r : Registration)
  | deregister (id : Text)
  | updateStatus (id : Text) (status : Status)
  | heartbeat (id : Text) (status : Option Status)
  | applyDelta (id : Text) (delta : Binary64) (reason jobId : Option Text)
  /-- Silent providers are sought at the moment of the call, or at the time that a given clock shows,
  which is so many microseconds ahead of UTC. -/
  | markStale (given : Option (Moment × Int))

/-- What a call gives back. -/
inductive Reply
  | record (r : Record)
  | removed (found : Bool)
  | marked (ids : List Text)

variable {σ τ : Type}

/-- The time at which silent providers are sought, as a clock shows it, and how many microseconds that
clock is ahead of UTC. -/
def soughtAt (now : Moment) (given : Option (Moment × Int)) : Moment × Int := given.getD (now, 0)

/-- The moment before which a sign of life is too old for a search at a given time. -/
def soughtSince (p : Policy) (now : Moment) (given : Option (Moment × Int)) :
    Except Moment.Fault Moment :=
  (cutoff p (soughtAt now given).1).map (· - (soughtAt now given).2)

/-- Makes a call. -/
def perform (store : ProviderStore σ) (p : Policy) (now : Moment) : Call → Attempt Failure σ Reply
  | .register r => .record <$> register store p now r
  | .deregister id => .removed <$> deregister store id
  | .updateStatus id status => .record <$> updateStatus store id status
  | .heartbeat id status => .record <$> heartbeat store now id status
  | .applyDelta id delta reason jobId => .record <$> applyDelta store now id delta reason jobId
  | .markStale given =>
    .marked <$> markStaleAt store p (soughtAt now given).1 (soughtAt now given).2

/-- A call in a run, with what came of it. -/
structure Step (σ : Type) where
  now : Moment
  call : Call
  before : σ
  outcome : Except Failure Reply
  after : σ

/-- The step that a call makes. -/
def stepOf (p : Policy) (store : ProviderStore σ) (now : Moment) (call : Call) (s : σ) : Step σ where
  now := now
  call := call
  before := s
  outcome := (perform store p now call s).1
  after := (perform store p now call s).2

/-- What happens in a run, oldest step first. -/
def steps (p : Policy) (stores : Moment → ProviderStore σ) :
    List (Moment × Call) → σ → List (Step σ)
  | [], _ => []
  | (now, call) :: calls, s =>
    stepOf p (stores now) now call s ::
      steps p stores calls (perform (stores now) p now call s).2

/-- What is left after some calls. -/
def final (p : Policy) (stores : Moment → ProviderStore σ) : List (Moment × Call) → σ → σ
  | [], s => s
  | (now, call) :: calls, s => final p stores calls (perform (stores now) p now call s).2

/-- A registry that takes one call after the other. -/
def machine (p : Policy) (stores : Moment → ProviderStore σ) (input : Moment × Call) (s : σ) :
    Step σ × σ :=
  (stepOf p (stores input.1) input.1 input.2 s, (perform (stores input.1) p input.1 input.2 s).2)

theorem steps_eq (p : Policy) (stores : Moment → ProviderStore σ) (calls : List (Moment × Call))
    (s : σ) : steps p stores calls s = Run.steps (machine p stores) calls s := by
  induction calls generalizing s with
  | nil => rfl
  | cons first calls ih => exact congrArg (_ :: ·) (ih _)

theorem final_eq (p : Policy) (stores : Moment → ProviderStore σ) (calls : List (Moment × Call))
    (s : σ) : final p stores calls s = Run.final (machine p stores) calls s := by
  induction calls generalizing s with
  | nil => rfl
  | cons first calls ih => exact ih _

/-! ## What every call keeps -/

/-- What every allowed call keeps, a run of allowed calls keeps. -/
theorem keeps_run {p : Policy} {stores : Moment → ProviderStore σ} {I : σ → Prop} {Q : Reply → Prop}
    {Allowed : Call → Prop}
    (hstep : ∀ now call, Allowed call → (perform (stores now) p now call).Keeps I Q)
    {calls : List (Moment × Call)} (hcalls : ∀ call ∈ calls, Allowed call.2) {s : σ} (hs : I s) :
    I (final p stores calls s) ∧
      ∀ step ∈ steps p stores calls s, I step.after ∧
        ∀ reply, step.outcome = .ok reply → Q reply := by
  -- on the calls, with the state left free: the first call keeps what the rest begins with
  induction calls generalizing s with
  | nil => exact ⟨hs, by simp [steps]⟩
  | cons first calls ih =>
    obtain ⟨now, call⟩ := first
    have hfirst := hstep now call (hcalls _ (List.mem_cons_self ..)) s hs
    obtain ⟨hfinal, hlater⟩ :=
      ih (fun call hcall => hcalls call (List.mem_cons_of_mem _ hcall)) hfirst.1
    refine ⟨hfinal, ?_⟩
    intro step hmem
    rcases List.mem_cons.1 hmem with rfl | hmem
    · exact hfirst
    · exact hlater step hmem

/-! ## Stores that answer alike -/

/-- Each operation of two stores comes to the same outcome from related states, and leaves related
states. -/
structure ProviderStore.Simulates (R : σ → τ → Prop) (A : ProviderStore σ) (B : ProviderStore τ) :
    Prop where
  save : ∀ r, (A.save r).Agrees R (B.save r)
  find? : ∀ id, (A.find? id).Agrees R (B.find? id)
  erase : ∀ id, (A.erase id).Agrees R (B.erase id)
  all : A.all.Agrees R B.all
  append : ∀ c, (A.append c).Agrees R (B.append c)
  history : ∀ id, (A.history id).Agrees R (B.history id)

section

variable {R : σ → τ → Prop} {A : ProviderStore σ} {B : ProviderStore τ}

open Attempt (Agrees)

theorem require_agrees (h : A.Simulates R B) (id : Text) : (require A id).Agrees R (require B id) := by
  refine Agrees.bind (h.find? id) ?_
  intro found
  cases found with
  | none => exact Agrees.fail _
  | some r => exact Agrees.pure r

theorem register_agrees (h : A.Simulates R B) (p : Policy) (now : Moment) (r : Registration) :
    (register A p now r).Agrees R (register B p now r) := by
  refine Agrees.bind (h.find? r.id) fun found => ?_
  refine Agrees.bind (Agrees.ofExcept _) fun seen => ?_
  exact Agrees.bind (h.save _) fun _ => Agrees.pure _

theorem updateStatus_agrees (h : A.Simulates R B) (id : Text) (status : Status) :
    (updateStatus A id status).Agrees R (updateStatus B id status) := by
  refine Agrees.bind (require_agrees h id) fun old => ?_
  exact Agrees.bind (h.save _) fun _ => Agrees.pure _

theorem heartbeat_agrees (h : A.Simulates R B) (now : Moment) (id : Text) (status : Option Status) :
    (heartbeat A now id status).Agrees R (heartbeat B now id status) := by
  refine Agrees.bind (require_agrees h id) fun old => ?_
  refine Agrees.bind (Agrees.ofExcept _) fun seen => ?_
  exact Agrees.bind (h.save _) fun _ => Agrees.pure _

theorem applyDelta_agrees (h : A.Simulates R B) (now : Moment) (id : Text) (delta : Binary64)
    (reason jobId : Option Text) :
    (applyDelta A now id delta reason jobId).Agrees R (applyDelta B now id delta reason jobId) := by
  unfold applyDelta
  split
  · exact Agrees.fail _
  · refine Agrees.bind (require_agrees h id) fun old => ?_
    refine Agrees.bind (h.save _) fun _ => ?_
    refine Agrees.bind (Agrees.ofExcept _) fun applied => ?_
    exact Agrees.bind (h.append _) fun _ => Agrees.pure _

theorem markOne_agrees (h : A.Simulates R B) (before : Moment) (listed : Record) :
    (markOne A before listed).Agrees R (markOne B before listed) := by
  refine Agrees.bind (Agrees.ofExcept _) fun silent => ?_
  split
  · exact Agrees.pure none
  · refine Agrees.bind (h.find? listed.id) fun found => ?_
    cases found with
    | none => exact Agrees.pure none
    | some current =>
      refine Agrees.bind (Agrees.ofExcept _) fun silent => ?_
      split
      · exact Agrees.pure none
      · exact Agrees.bind (h.save _) fun _ => Agrees.pure _

theorem markEach_agrees (h : A.Simulates R B) (before : Moment) (listed : List Record) :
    (markEach A before listed).Agrees R (markEach B before listed) := by
  induction listed with
  | nil => exact Agrees.pure []
  | cons first rest ih =>
    refine Agrees.bind (markOne_agrees h before first) fun marked => ?_
    exact Agrees.bind ih fun others => Agrees.pure _

theorem markStaleAt_agrees (h : A.Simulates R B) (p : Policy) (shown : Moment) (ahead : Int) :
    (markStaleAt A p shown ahead).Agrees R (markStaleAt B p shown ahead) := by
  refine Agrees.bind (Agrees.ofExcept _) fun before => ?_
  exact Agrees.bind h.all fun listed => markEach_agrees h _ listed

theorem perform_agrees (h : A.Simulates R B) (p : Policy) (now : Moment) (call : Call) :
    (perform A p now call).Agrees R (perform B p now call) := by
  cases call with
  | register r => exact Agrees.map _ (register_agrees h p now r)
  | deregister id => exact Agrees.map _ (h.erase id)
  | updateStatus id status => exact Agrees.map _ (updateStatus_agrees h id status)
  | heartbeat id status => exact Agrees.map _ (heartbeat_agrees h now id status)
  | applyDelta id delta reason jobId =>
    exact Agrees.map _ (applyDelta_agrees h now id delta reason jobId)
  | markStale given => exact Agrees.map _ (markStaleAt_agrees h p _ _)

/-- A run is the same over stores that answer alike. -/
theorem run_agrees {stores : Moment → ProviderStore σ} {stores' : Moment → ProviderStore τ}
    (h : ∀ now, (stores now).Simulates R (stores' now)) (p : Policy) (calls : List (Moment × Call))
    {s : σ} {t : τ} (hst : R s t) :
    (steps p stores calls s).map Step.outcome = (steps p stores' calls t).map Step.outcome ∧
      R (final p stores calls s) (final p stores' calls t) := by
  induction calls generalizing s t with
  | nil => exact ⟨rfl, hst⟩
  | cons first calls ih =>
    obtain ⟨now, call⟩ := first
    obtain ⟨houtcome, hleft⟩ := perform_agrees (h now) p now call s t hst
    obtain ⟨hrest, hfinal⟩ := ih hleft
    refine ⟨?_, hfinal⟩
    rw [steps, steps, List.map_cons, List.map_cons, hrest]
    simp only [stepOf, houtcome]

end

end ComputeDirectory.Registry
