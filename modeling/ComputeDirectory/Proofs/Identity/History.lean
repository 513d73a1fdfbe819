import ComputeDirectory.Proofs.Identity.Answer

/-!
# Histories

A run of a session is a list of calls, each with the moment at which it is made. Moments are free to
go back. `history` is what happens in a run: one `Step` for each call, with its reply and the states
before and after it.

`sublist_history` and `history_eq_append_cons` find the calls that led up to given steps of a
history, so that a statement about two steps becomes one about a state and a shorter run.
`history_induction` is the induction over runs.
-/

namespace ComputeDirectory.Identity.Session

/-- A call of a session, or of the issuer behind it. How the verifier and the store behave at an
answer is part of the call: they need not behave alike at another one. -/
inductive Call (σ : Type)
  | issue (claimantKey : Text) (lifetime : Option Int)
  | submit (verify : Verifier) (store : RecordStore σ) (e : SignedEvent)
  | cancel (id : Text)
  | sweep
  /-- A claim of the issuer, past the session. -/
  | claim (id : Text)
  /-- An invalidation by the issuer, past the session. -/
  | invalidate (id : Text)
  /-- A sweep of the issuer, past the session: at the second of the clock, or at a given one. -/
  | sweepIssuer (second : Option Int)

/-- Whether a call is one of the session itself. -/
def Call.isOwn {σ : Type} : Call σ → Bool
  | issue _ _ | submit _ _ _ | cancel _ | sweep => true
  | claim _ | invalidate _ | sweepIssuer _ => false

/-- What a call gives back. -/
inductive Reply
  | issued (result : Except Failure Challenge)
  | answered (result : Except Failure AuthRecord)
  | swept (result : Except Failure Nat)
  | claimed (result : Except Refusal Challenge)
  | done

variable {σ : Type}

/-- The challenge that a reply hands out. -/
def Reply.begun? : Reply → Option Challenge
  | issued (.ok c) => some c
  | issued (.error _) | answered _ | swept _ | claimed _ | done => none

/-- Makes a call: the reply, the session and the store of records. -/
def perform (p : Policy) (now : Moment) : Call σ → Session × σ → Reply × Session × σ
  | .issue claimantKey lifetime, (s, t) =>
    let (result, s) := issue p now claimantKey lifetime s
    (.issued result, s, t)
  | .submit verify store e, st =>
    let (result, st) := submit p verify store now e st
    (.answered result, st)
  | .cancel id, (s, t) => (.done, s.cancel id, t)
  | .sweep, (s, t) =>
    let (result, s) := sweep p now s
    (.swept result, s, t)
  | .claim id, (s, t) =>
    let (result, issuer) := Issuer.claim id s.issuer
    (.claimed result, { s with issuer }, t)
  | .invalidate id, (s, t) => (.done, { s with issuer := s.issuer.invalidate id }, t)
  | .sweepIssuer none, (s, t) =>
    let (result, issuer) := Issuer.sweepNow p.issuer now s.issuer
    (.swept result, { s with issuer }, t)
  | .sweepIssuer (some second), (s, t) =>
    let (removed, issuer) := s.issuer.sweep p.issuer second
    (.swept (.ok removed), { s with issuer }, t)

/-- A call in a run, with what came of it. -/
structure Step (σ : Type) where
  now : Moment
  call : Call σ
  before : Session × σ
  reply : Reply
  after : Session × σ

/-- The step that a call makes. -/
def stepOf (p : Policy) (now : Moment) (call : Call σ) (st : Session × σ) : Step σ where
  now := now
  call := call
  before := st
  reply := (perform p now call st).1
  after := (perform p now call st).2

/-- What is left after some calls. -/
def final (p : Policy) : List (Moment × Call σ) → Session × σ → Session × σ
  | [], st => st
  | (now, call) :: calls, st => final p calls (perform p now call st).2

/-- What happens in a run, oldest step first. -/
def history (p : Policy) : List (Moment × Call σ) → Session × σ → List (Step σ)
  | [], _ => []
  | (now, call) :: calls, st =>
    stepOf p now call st :: history p calls (perform p now call st).2

/-! ## Parts of a history -/

theorem final_append (p : Policy) (before after : List (Moment × Call σ)) (st : Session × σ) :
    final p (before ++ after) st = final p after (final p before st) := by
  induction before generalizing st with
  | nil => rfl
  | cons first before ih => exact ih _

theorem history_append (p : Policy) (before after : List (Moment × Call σ)) (st : Session × σ) :
    history p (before ++ after) st =
      history p before st ++ history p after (final p before st) := by
  induction before generalizing st with
  | nil => rfl
  | cons first before ih =>
    obtain ⟨now, call⟩ := first
    exact congrArg (stepOf p now call st :: ·) (ih _)

/-- The steps up to a point and those after it are histories themselves. -/
theorem history_eq_append_cons {p : Policy} {calls : List (Moment × Call σ)} {st : Session × σ}
    {l r : List (Step σ)} {s : Step σ} (h : history p calls st = l ++ s :: r) :
    ∃ before now call after, calls = before ++ (now, call) :: after ∧
      l = history p before st ∧ s = stepOf p now call (final p before st) ∧
      r = history p after s.after := by
  induction l generalizing calls st with
  | nil =>
    cases calls with
    | nil => cases h
    | cons first calls =>
      obtain ⟨now, call⟩ := first
      rw [history, List.nil_append, List.cons.injEq] at h
      obtain ⟨rfl, rfl⟩ := h
      exact ⟨[], now, call, calls, rfl, rfl, rfl, rfl⟩
  | cons step l ih =>
    cases calls with
    | nil => cases h
    | cons first calls =>
      obtain ⟨now, call⟩ := first
      rw [history, List.cons_append, List.cons.injEq] at h
      obtain ⟨rfl, h⟩ := h
      obtain ⟨before, now', call', after, rfl, rfl, rfl, rfl⟩ := ih h
      exact ⟨(now, call) :: before, now', call', after, rfl, rfl, rfl, rfl⟩

/-- Steps that follow one another in a history: the first is made in a state that the run reaches,
and the others happen in a run from there. -/
theorem sublist_history {p : Policy} {calls : List (Moment × Call σ)} {st : Session × σ}
    {s : Step σ} {rest : List (Step σ)} (h : (s :: rest).Sublist (history p calls st)) :
    ∃ before now call after, calls = before ++ (now, call) :: after ∧
      s = stepOf p now call (final p before st) ∧ rest.Sublist (history p after s.after) := by
  induction calls generalizing st with
  | nil => cases h
  | cons first calls ih =>
    obtain ⟨now, call⟩ := first
    rw [history] at h
    cases h with
    | cons _ h =>
      obtain ⟨before, now', call', after, rfl, hs, hrest⟩ := ih h
      exact ⟨(now, call) :: before, now', call', after, rfl, hs, hrest⟩
    | cons_cons _ h => exact ⟨[], now, call, calls, rfl, rfl, h⟩

theorem mem_history {p : Policy} {calls : List (Moment × Call σ)} {st : Session × σ} {s : Step σ}
    (h : s ∈ history p calls st) :
    ∃ before now call after, calls = before ++ (now, call) :: after ∧
      s = stepOf p now call (final p before st) := by
  obtain ⟨before, now, call, after, hcalls, hs, -⟩ :=
    sublist_history (List.singleton_sublist.2 h)
  exact ⟨before, now, call, after, hcalls, hs⟩

/-- What a step of a history leaves behind is what the calls up to it leave behind. -/
theorem after_of_sublist {p : Policy} {calls : List (Moment × Call σ)} {st : Session × σ}
    {s : Step σ} {rest : List (Step σ)} (h : (s :: rest).Sublist (history p calls st)) :
    ∃ before after, calls = before ++ after ∧ s.after = final p before st ∧
      rest.Sublist (history p after s.after) := by
  obtain ⟨before, now, call, after, rfl, rfl, hrest⟩ := sublist_history h
  refine ⟨before ++ [(now, call)], after, by simp, ?_, hrest⟩
  rw [final_append]
  rfl

/-- Two calls of a run are two steps of its history. -/
theorem pair_sublist_history (p : Policy) (before between after : List (Moment × Call σ))
    (now now' : Moment) (call call' : Call σ) (st : Session × σ) :
    [stepOf p now call (final p before st),
      stepOf p now' call' (final p between (perform p now call (final p before st)).2)].Sublist
      (history p (before ++ (now, call) :: (between ++ (now', call') :: after)) st) := by
  rw [history_append, history, history_append, history]
  refine List.Sublist.trans ?_ (List.sublist_append_right _ _)
  refine List.Sublist.cons_cons _ ?_
  refine List.Sublist.trans ?_ (List.sublist_append_right _ _)
  exact List.Sublist.cons_cons _ (List.nil_sublist _)

/-! ## Induction over runs -/

/-- What holds at the start, and is kept by each call allowed, holds after a run of such calls. It
may look back at the history. -/
theorem history_induction {p : Policy} (Allowed : Call σ → Prop)
    {P : List (Step σ) → Session × σ → Prop} {st : Session × σ} (hstart : P [] st)
    (hstep : ∀ past st now call, Allowed call → P past st →
      P (past ++ [stepOf p now call st]) (perform p now call st).2)
    {calls : List (Moment × Call σ)} (hcalls : ∀ call ∈ calls, Allowed call.2) :
    P (history p calls st) (final p calls st) := by
  -- the run may start anywhere in the middle of a longer one, whose past is carried along
  suffices h : ∀ past st, P past st → P (past ++ history p calls st) (final p calls st) from
    h [] st hstart
  clear hstart st
  induction calls with
  | nil =>
    intro past st hpast
    rwa [history, List.append_nil]
  | cons first calls ih =>
    obtain ⟨now, call⟩ := first
    intro past st hpast
    have hrest := ih (fun call hcall => hcalls call (List.mem_cons_of_mem _ hcall))
      (past ++ [stepOf p now call st]) _
      (hstep past st now call (hcalls _ (List.mem_cons_self ..)) hpast)
    rwa [List.append_assoc] at hrest

/-- An invariant that does not look back holds after every run. -/
theorem final_induction {p : Policy} (Allowed : Call σ → Prop) {P : Session × σ → Prop}
    {st : Session × σ} (hstart : P st)
    (hstep : ∀ st now call, Allowed call → P st → P (perform p now call st).2)
    {calls : List (Moment × Call σ)} (hcalls : ∀ call ∈ calls, Allowed call.2) :
    P (final p calls st) :=
  history_induction Allowed (P := fun _ => P) hstart (fun _ => hstep) hcalls

/-! ## A session to try things on -/

/-- A well-formed key. -/
def sampleKey : Text := .ofChars (List.replicate 64 'a')

/-- The identifier drawn after `count` others: a text of that length. -/
def sampleToken (count : Nat) : Text := .ofChars (List.replicate count 'a')

theorem sampleToken_injective : Function.Injective sampleToken := by
  intro m n h
  have hlength := congrArg Text.length h
  simpa [sampleToken, Text.length, Text.ofChars] using hlength

/-- A session with a few settings left open: how often it forgets, how often its issuer sweeps (at
least with every challenge), and how long the issuer remembers. -/
def samplePolicy (sweepEvery issuerSweepEvery retention : Nat) : Policy where
  serverKey := sampleKey
  defaultLifetime := 300
  sweepEvery := sweepEvery
  issuer :=
    { sweepEvery := max 1 issuerSweepEvery
      retention := retention
      token := sampleToken
      clock := .floored
      sweepEvery_pos := by omega
      retention_nonneg := by omega }

/-- An answer to the challenge drawn after `count` others. -/
def sampleAnswer (count : Nat) : SignedEvent :=
  answerTo ⟨sampleToken count, sampleKey, sampleKey, 0, 60⟩ ""

/-- A request of the claimant for a challenge that lasts a minute. -/
def sampleIssue : Call RecordShelf := .issue sampleKey (some 60)

/-- An answer that the verifier accepts, to be saved in memory. -/
def sampleSubmit (count : Nat) : Call RecordShelf :=
  .submit (fun _ => .ok ()) shelfRecords (sampleAnswer count)

end ComputeDirectory.Identity.Session
