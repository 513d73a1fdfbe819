import ComputeDirectory.Proofs.Identity.History

/-!
# Sweeping is not seen from outside

A `Ledger` keeps challenges as a session does, but never sweeps: it forgets nothing that was not
answered or cancelled. As long as the clock does not go back, a session and a ledger give the same
`Outcome`s. What the session has swept away is overdue at every second that the clock still shows,
so the ledger refuses an answer to it as well, if for another reason (`Backs.perform`).

A ledger looks only at those settings that have nothing to do with sweeping. So two sessions that
share these settings agree with one ledger and with each other, wherever their runs are swept.
-/

namespace ComputeDirectory.Identity.Session

variable {σ : Type} {p q : Policy}

/-! ## Outcomes -/

/-- Whether a call sweeps at the current second. -/
def Call.isSweep : Call σ → Bool
  | sweep | sweepIssuer none => true
  | issue _ _ | submit _ _ _ | cancel _ | claim _ | invalidate _ | sweepIssuer (some _) => false

/-- What is compared between runs: the result of a request for a challenge, and whether an answer
gives a record, and which. Why an answer gives none is left out. -/
inductive Outcome
  | begun (result : Except Failure Challenge)
  | answered (record : Option AuthRecord)
  | cancelled

/-- The outcome of a reply; those of sweeps and of calls past the session have none. -/
def Reply.outcome? : Reply → Option Outcome
  | issued result => some (.begun result)
  | answered result => some (.answered result.toOption)
  | done => some .cancelled
  | swept _ | claimed _ => none

/-- The outcomes of the steps of a history. -/
def outcomes (steps : List (Step σ)) : List Outcome := steps.filterMap fun s => s.reply.outcome?

theorem outcomes_cons (s : Step σ) (steps : List (Step σ)) :
    outcomes (s :: steps) = s.reply.outcome?.toList ++ outcomes steps := by
  rw [outcomes, List.filterMap_cons]
  cases s.reply.outcome? <;> rfl

/-! ## A ledger that never sweeps -/

/-- Challenges that wait for an answer, however long. -/
structure Ledger where
  pending : Text → Option Challenge
  drawn : Nat

namespace Ledger

/-- The ledger before the first challenge. -/
def start : Ledger := ⟨fun _ => none, 0⟩

/-- Enters the next challenge. -/
def enter (c : Challenge) (l : Ledger) : Ledger where
  pending id := if id = c.id then some c else l.pending id
  drawn := l.drawn + 1

/-- Removes a challenge. -/
def erase (id : Text) (l : Ledger) : Ledger :=
  { l with pending := fun other => if other = id then none else l.pending other }

/-- The challenge that is entered next. -/
def next (p : Policy) (second : Int) (claimantKey : Text) (lifetime : Option Int) (l : Ledger) :
    Challenge :=
  ⟨p.issuer.token l.drawn, p.serverKey, claimantKey, second,
    second + lifetime.getD p.defaultLifetime⟩

/-- Makes a call: its outcome, the ledger and the store of records. Sweeps do nothing. -/
def perform (p : Policy) (now : Moment) : Call σ → Ledger × σ → Option Outcome × Ledger × σ
  | .issue claimantKey lifetime, (l, t) =>
    match p.grant now claimantKey lifetime with
    | .error f => (some (.begun (.error f)), l, t)
    | .ok second =>
      let c := l.next p second claimantKey lifetime
      (some (.begun (Issuer.handOut (lifetime.getD p.defaultLifetime) c)), l.enter c, t)
  | .submit verify store e, (l, t) =>
    match e.challengeId?.bind l.pending with
    | none => (some (.answered none), l, t)
    | some c =>
      let (result, t, _) := judge (p.issuer.second now) verify store now c e t
      (some (.answered result.toOption), l.erase c.id, t)
  | .cancel id, (l, t) => (some .cancelled, l.erase id, t)
  | .sweep, st | .claim _, st | .invalidate _, st | .sweepIssuer _, st => (none, st)

/-- A run: its outcomes, and the store of records at its end. -/
def run (p : Policy) : List (Moment × Call σ) → Ledger × σ → List Outcome × σ
  | [], (_, t) => ([], t)
  | (now, call) :: calls, st =>
    let made := perform p now call st
    let rest := run p calls made.2
    (made.1.toList ++ rest.1, rest.2)

/-- Leaving out the sweeps changes nothing. -/
theorem run_filter (p : Policy) (calls : List (Moment × Call σ)) (st : Ledger × σ) :
    run p (calls.filter fun call => !call.2.isSweep) st = run p calls st := by
  induction calls generalizing st with
  | nil => rfl
  | cons first calls ih =>
    obtain ⟨now, call⟩ := first
    cases hsweep : call.isSweep with
    | false =>
      rw [List.filter_cons_of_pos (by rw [hsweep]; rfl), run, run, ih]
    | true =>
      have hnothing : perform p now call st = (none, st) := by
        cases call with
        | sweep => rfl
        | sweepIssuer second => rfl
        | issue | submit | cancel | claim | invalidate => cases hsweep
      rw [List.filter_cons_of_neg (by rw [hsweep]; exact Bool.false_ne_true), ih, run, hnothing]
      rfl

end Ledger

/-! ## Ledgers back sessions -/

/-- Whether a challenge has expired at every second that the clock shows in what is left of a run. -/
def Overdue (p : Policy) (calls : List (Moment × Call σ)) (c : Challenge) : Prop :=
  ∀ call ∈ calls, ∀ second, p.issuer.second call.1 = .ok second → c.expiresAt < second

/-- Whether the clock never shows less after a moment. -/
def Followed (p : Policy) (now : Moment) (calls : List (Moment × Call σ)) : Prop :=
  ∀ call ∈ calls, ∀ second second', p.issuer.second now = .ok second →
    p.issuer.second call.1 = .ok second' → second ≤ second'

theorem overdue_of_lt {now : Moment} {calls : List (Moment × Call σ)} {second : Int}
    {c : Challenge} (hfollowed : Followed p now calls) (hsecond : p.issuer.second now = .ok second)
    (hlate : c.expiresAt < second) : Overdue p calls c := by
  intro call hcall second' hsecond'
  have hle := hfollowed call hcall second second' hsecond hsecond'
  omega

/-- A ledger holds what is pending in a session, and besides only what is overdue. -/
structure Backs (p : Policy) (calls : List (Moment × Call σ)) (l : Ledger) (s : Session) :
    Prop where
  drawn : s.issuer.drawn = l.drawn
  pending_of_get? : ∀ {id c}, s.issuer.get? id = some c → l.pending id = some c
  filed : ∀ {id c}, l.pending id = some c → c.id = id
  overdue : ∀ {id c}, l.pending id = some c → s.issuer.get? id = none → Overdue p calls c

/-- Session and ledger have made a call alike: with the same outcome, the same records, and a ledger
that still backs the session. -/
structure Alike (p : Policy) (calls : List (Moment × Call σ)) (made : Reply × Session × σ)
    (made' : Option Outcome × Ledger × σ) : Prop where
  outcome : made.1.outcome? = made'.1
  records : made.2.2 = made'.2.2
  backs : Backs p calls made'.2.1 made.2.1

theorem backs_start (p : Policy) (calls : List (Moment × Call σ)) :
    Backs p calls Ledger.start start where
  drawn := rfl
  pending_of_get? h := by cases h
  filed h := by cases h
  overdue h := by cases h

namespace Backs

variable {now : Moment} {call : Call σ} {calls : List (Moment × Call σ)} {l : Ledger} {s s' : Session}

theorem get?_or (h : Backs p calls l s) {id : Text} {c : Challenge}
    (hledger : l.pending id = some c) :
    s.issuer.get? id = none ∨ s.issuer.get? id = some c := by
  cases hold : s.issuer.get? id with
  | none => exact .inl rfl
  | some d => exact .inr ((h.pending_of_get? hold).symm.trans hledger)

/-- A session may drop what is overdue. -/
theorem drop (h : Backs p ((now, call) :: calls) l s) (hdrawn : s'.issuer.drawn = s.issuer.drawn)
    (hget : ∀ {id c}, s'.issuer.get? id = some c → s.issuer.get? id = some c)
    (hdropped : ∀ {id c}, s.issuer.get? id = some c → s'.issuer.get? id = none →
      Overdue p calls c) : Backs p calls l s' where
  drawn := hdrawn.trans h.drawn
  pending_of_get? hpending := h.pending_of_get? (hget hpending)
  filed := h.filed
  overdue := by
    intro id c hledger hnone
    rcases h.get?_or hledger with hold | hold
    · exact fun call hcall => h.overdue hledger hold call (List.mem_cons_of_mem _ hcall)
    · exact hdropped hold hnone

theorem tail (h : Backs p ((now, call) :: calls) l s) : Backs p calls l s :=
  h.drop rfl (fun hget => hget) fun hget hnone => by rw [hget] at hnone; cases hnone

theorem sweep (h : Backs p ((now, call) :: calls) l s) (hfollowed : Followed p now calls)
    {second : Int} (hsecond : p.issuer.second now = .ok second)
    (hissuer : s'.issuer = (s.issuer.sweep p.issuer second).2) : Backs p calls l s' := by
  refine h.drop (by rw [hissuer, Issuer.drawn_sweep]) ?_ ?_
  · intro id c hget
    rw [hissuer] at hget
    exact Issuer.get?_of_get?_sweep hget
  · intro id c hget hnone
    rw [hissuer] at hnone
    exact overdue_of_lt hfollowed hsecond (Issuer.expired_of_get?_sweep hget hnone)

theorem erase (h : Backs p ((now, call) :: calls) l s) {id : Text}
    (hdrawn : s'.issuer.drawn = s.issuer.drawn)
    (hget : ∀ other, s'.issuer.get? other = if other = id then none else s.issuer.get? other) :
    Backs p calls (l.erase id) s' where
  drawn := hdrawn.trans h.drawn
  pending_of_get? := by
    intro other c hpending
    rw [hget] at hpending
    show (if other = id then none else l.pending other) = some c
    split at hpending
    · cases hpending
    · next hother => rw [if_neg hother, h.pending_of_get? hpending]
  filed := by
    intro other c hledger
    replace hledger : (if other = id then none else l.pending other) = some c := hledger
    split at hledger
    · cases hledger
    · exact h.filed hledger
  overdue := by
    intro other c hledger hnone
    replace hledger : (if other = id then none else l.pending other) = some c := hledger
    rw [hget] at hnone
    split at hledger
    · cases hledger
    · next hother =>
      rw [if_neg hother] at hnone
      exact h.tail.overdue hledger hnone

theorem next_eq (h : Backs p calls l s) (second : Int) (claimantKey : Text)
    (lifetime : Option Int) :
    l.next p second claimantKey lifetime = (s.registered p second claimantKey lifetime).1 := by
  rw [Ledger.next, ← h.drawn]
  rfl

theorem enter (h : Backs p ((now, call) :: calls) l s) (hfollowed : Followed p now calls)
    {second : Int} (hsecond : p.issuer.second now = .ok second) (claimantKey : Text)
    {lifetime : Option Int} (hlifetime : 0 < lifetime.getD p.defaultLifetime) :
    Backs p calls (l.enter (s.registered p second claimantKey lifetime).1)
      (s.granted p second claimantKey lifetime) := by
  have hself := get?_granted_self p second claimantKey hlifetime s
  refine ⟨?_, ?_, ?_, ?_⟩
  · rw [issuer_granted, registered, Issuer.drawn_register, h.drawn]
    rfl
  · intro id c hpending
    show (if id = (s.registered p second claimantKey lifetime).1.id then _ else l.pending id) = _
    split
    · next hid => rw [← hpending, hid, hself]
    · next hid =>
      rw [issuer_granted] at hpending
      rcases Issuer.get?_of_get?_register hpending with hold | ⟨hnew, -⟩
      · exact h.pending_of_get? hold
      · exact absurd hnew hid
  · intro id c hledger
    replace hledger : (if id = (s.registered p second claimantKey lifetime).1.id then _
      else l.pending id) = some c := hledger
    split at hledger
    · next hid =>
      rw [Option.some.injEq] at hledger
      rw [← hledger, hid]
    · exact h.filed hledger
  · intro id c hledger hnone
    replace hledger : (if id = (s.registered p second claimantKey lifetime).1.id then _
      else l.pending id) = some c := hledger
    split at hledger
    · next hid =>
      -- the new challenge is pending, so it cannot be among those dropped
      rw [hid, hself] at hnone
      cases hnone
    · next hid =>
      rcases h.get?_or hledger with hold | hold
      · exact h.tail.overdue hledger hold
      · rw [issuer_granted] at hnone
        exact overdue_of_lt hfollowed hsecond (Issuer.expired_of_get?_register hid hold hnone)

/-- An answer has the same outcome with both: what the session has dropped is overdue. -/
theorem submit (h : Backs p ((now, call) :: calls) l s) (verify : Verifier) (store : RecordStore σ)
    (e : SignedEvent) (t : σ) :
    Alike p calls (Session.perform p now (.submit verify store e) (s, t))
      (Ledger.perform p now (.submit verify store e) (l, t)) := by
  simp only [Session.perform, Ledger.perform]
  cases hnamed : e.challengeId?.bind s.issuer.get? with
  | some c =>
    obtain ⟨id, htag, hget⟩ := Option.bind_eq_some_iff.1 hnamed
    have hledger := h.pending_of_get? hget
    obtain rfl := h.filed hledger
    have hnamed' : e.challengeId?.bind l.pending = some c := by
      rw [htag]
      exact hledger
    rw [submit_of_pending p verify store now t htag hget, hnamed']
    exact ⟨rfl, rfl, h.erase rfl fun other => Issuer.get?_spend c.id c.expiresAt s.issuer other⟩
  | none =>
    -- refused by the session; the ledger may still hold the challenge, but then it is overdue
    obtain ⟨f, s', hsubmit, hissuer⟩ := submit_of_not_pending p verify store now t hnamed
    rw [hsubmit]
    have hsame : Backs p calls l s' := by
      refine h.drop (by rw [hissuer]) (fun hget => by rwa [hissuer] at hget) ?_
      intro id c hget hnone
      rw [hissuer, hget] at hnone
      cases hnone
    cases hnamed' : e.challengeId?.bind l.pending with
    | none => exact ⟨rfl, rfl, hsame⟩
    | some c =>
      obtain ⟨id, htag, hledger⟩ := Option.bind_eq_some_iff.1 hnamed'
      obtain rfl := h.filed hledger
      have hget : s.issuer.get? c.id = none := by rwa [htag] at hnamed
      have hlate : ∀ second, p.issuer.second now = .ok second → c.expiresAt < second :=
        h.overdue hledger hget (now, call) (List.mem_cons_self ..)
      obtain ⟨f', ending, hjudge⟩ := judge_of_late verify store now e t hlate
      simp only [hjudge]
      refine ⟨rfl, rfl, h.erase (by rw [hissuer]) ?_⟩
      intro other
      rw [hissuer]
      split
      · next hother => rw [hother, hget]
      · rfl

theorem perform (h : Backs p ((now, call) :: calls) l s) (hfollowed : Followed p now calls)
    (hcall : (call.isOwn || call.isSweep) = true) (t : σ) :
    Alike p calls (Session.perform p now call (s, t)) (Ledger.perform p now call (l, t)) := by
  cases call with
  | issue claimantKey lifetime =>
    simp only [Session.perform, Ledger.perform, issue_eq]
    cases hgrant : p.grant now claimantKey lifetime with
    | error f => exact ⟨rfl, rfl, h.tail⟩
    | ok second =>
      obtain ⟨hlifetime, hsecond⟩ := Issuer.Policy.grant_eq_ok hgrant
      simp only [h.next_eq]
      exact ⟨rfl, rfl, h.enter hfollowed hsecond claimantKey hlifetime⟩
  | submit verify store e => exact h.submit verify store e t
  | cancel id =>
    refine ⟨rfl, rfl, h.erase ?_ ?_⟩
    · show (s.cancel id).issuer.drawn = _
      rw [issuer_cancel]
      rfl
    · intro other
      show (s.cancel id).issuer.get? other = _
      rw [issuer_cancel, Issuer.get?_invalidate]
  | sweep =>
    simp only [Session.perform, Ledger.perform, sweep_eq]
    cases hsecond : p.issuer.second now with
    | error f => exact ⟨rfl, rfl, h.tail⟩
    | ok second => exact ⟨rfl, rfl, h.sweep hfollowed hsecond rfl⟩
  | sweepIssuer second =>
    cases second with
    | some second => cases hcall
    | none =>
      simp only [Session.perform, Ledger.perform, Issuer.sweepNow_eq]
      cases hsecond : p.issuer.second now with
      | error f => exact ⟨rfl, rfl, h.tail⟩
      | ok second => exact ⟨rfl, rfl, h.sweep hfollowed hsecond rfl⟩
  | claim id => cases hcall
  | invalidate id => cases hcall

end Backs

/-! ## Runs -/

/-- Whether the clock never shows less than before in a run. -/
def Steady (p : Policy) (calls : List (Moment × Call σ)) : Prop :=
  calls.Pairwise fun call later => ∀ second second', p.issuer.second call.1 = .ok second →
    p.issuer.second later.1 = .ok second' → second ≤ second'

theorem steady_of_le {calls : List (Moment × Call σ)}
    (h : calls.Pairwise fun call later => call.1 ≤ later.1) : Steady p calls := by
  refine h.imp ?_
  intro call later hle second second' hsecond hsecond'
  have hread {now : Moment} {second : Int} (h : p.issuer.second now = .ok second) :
      p.issuer.clock.read now = .ok second := by
    rw [Issuer.Policy.second] at h
    cases hclock : p.issuer.clock.read now with
    | error f => rw [hclock] at h; cases h
    | ok second => rw [hclock] at h; cases h; rfl
  exact p.issuer.clock.read_mono hle (hread hsecond) (hread hsecond')

/-- A session gives the outcomes of a ledger that backs it, and keeps the same records. -/
theorem Backs.run {calls : List (Moment × Call σ)} {l : Ledger} {s : Session}
    (h : Backs p calls l s) (hsteady : Steady p calls)
    (hcalls : ∀ call ∈ calls, (call.2.isOwn || call.2.isSweep) = true) (t : σ) :
    outcomes (history p calls (s, t)) = (Ledger.run p calls (l, t)).1 ∧
      (final p calls (s, t)).2 = (Ledger.run p calls (l, t)).2 := by
  induction calls generalizing l s t with
  | nil => exact ⟨rfl, rfl⟩
  | cons first calls ih =>
    obtain ⟨now, call⟩ := first
    obtain ⟨hfollowed, hsteady⟩ := List.pairwise_cons.1 hsteady
    obtain ⟨houtcome, hrecords, hafter⟩ :=
      h.perform hfollowed (hcalls (now, call) (List.mem_cons_self ..)) t
    have hrest := ih hafter hsteady (fun call hcall => hcalls call (List.mem_cons_of_mem _ hcall))
      (Ledger.perform p now call (l, t)).2.2
    have hst : (Session.perform p now call (s, t)).2 =
        ((Session.perform p now call (s, t)).2.1, (Ledger.perform p now call (l, t)).2.2) :=
      Prod.ext rfl hrecords
    rw [history, outcomes_cons, final, hst, Ledger.run]
    refine ⟨?_, hrest.2⟩
    rw [hrest.1]
    exact congrArg (fun outcome => Option.toList outcome ++ _) houtcome

/-- Whether two sessions differ at most in how often they sweep and how long they remember. -/
structure Policy.SameButSweeping (p q : Policy) : Prop where
  serverKey : p.serverKey = q.serverKey
  defaultLifetime : p.defaultLifetime = q.defaultLifetime
  token : p.issuer.token = q.issuer.token
  clock : p.issuer.clock = q.issuer.clock

theorem Policy.SameButSweeping.run_eq (h : p.SameButSweeping q) (calls : List (Moment × Call σ))
    (st : Ledger × σ) : Ledger.run p calls st = Ledger.run q calls st := by
  have hsecond : p.issuer.second = q.issuer.second := by
    funext now
    rw [Issuer.Policy.second, Issuer.Policy.second, h.clock]
  have hgrant : p.grant = q.grant := by
    funext now claimantKey lifetime
    simp only [Policy.grant, Issuer.Policy.grant, h.serverKey, h.defaultLifetime, hsecond]
  have hnext : Ledger.next p = Ledger.next q := by
    funext second claimantKey lifetime l
    simp only [Ledger.next, h.serverKey, h.defaultLifetime, h.token]
  have hperform (now : Moment) (call : Call σ) (st : Ledger × σ) :
      Ledger.perform p now call st = Ledger.perform q now call st := by
    cases call <;> simp only [Ledger.perform, hsecond, hgrant, hnext, h.defaultLifetime]
  induction calls generalizing st with
  | nil => rfl
  | cons first calls ih =>
    obtain ⟨now, call⟩ := first
    rw [Ledger.run, Ledger.run, hperform, ih]

/-- Neither the settings of sweeping nor the sweeps asked for are seen from outside: two runs of the
same calls, sweeps apart, have the same outcomes and leave the same records. -/
theorem sweeping_unseen (p q : Policy) (hsettings : p.SameButSweeping q)
    (calls calls' : List (Moment × Call σ))
    (hcalls : ∀ call ∈ calls, (call.2.isOwn || call.2.isSweep) = true)
    (hcalls' : ∀ call ∈ calls', (call.2.isOwn || call.2.isSweep) = true)
    (hsteady : Steady p calls) (hsteady' : Steady q calls')
    (hsame : (calls.filter fun call => !call.2.isSweep) =
      calls'.filter fun call => !call.2.isSweep) (records : σ) :
    outcomes (history p calls (start, records)) = outcomes (history q calls' (start, records)) ∧
      (final p calls (start, records)).2 = (final q calls' (start, records)).2 := by
  have hp := (backs_start p calls).run hsteady hcalls records
  have hq := (backs_start q calls').run hsteady' hcalls' records
  have hledgers : Ledger.run p calls (Ledger.start, records) =
      Ledger.run q calls' (Ledger.start, records) := by
    rw [← Ledger.run_filter p calls, hsame, Ledger.run_filter, hsettings.run_eq]
  refine ⟨?_, ?_⟩
  · rw [hp.1, hq.1, hledgers]
  · rw [hp.2, hq.2, hledgers]

/-- An answer comes too late. One session says so; the other one has swept the challenge by then and
does not know it. The next challenge and the answer to it are the same with both. -/
theorem sweeping_unseen_sample :
    let p := samplePolicy 256 256 3600
    let q := samplePolicy 1 1 0
    let calls := [(0, sampleIssue), (61000000, sampleSubmit 0), (61000000, sampleIssue),
      (62000000, sampleSubmit 1)]
    let calls' := [(0, sampleIssue), (61000000, .sweep), (61000000, sampleSubmit 0),
      (61000000, .sweepIssuer none), (61000000, sampleIssue), (62000000, sampleSubmit 1)]
    outcomes (history p calls (start, .empty)) = outcomes (history q calls' (start, .empty)) ∧
      (final p calls (start, .empty)).2 = (final q calls' (start, .empty)).2 := by
  intro p q calls calls'
  refine sweeping_unseen p q ⟨rfl, rfl, rfl, rfl⟩ calls calls' ?_ ?_ ?_ ?_ rfl .empty
  · simp [calls, sampleIssue, sampleSubmit, Call.isOwn]
  · simp [calls', sampleIssue, sampleSubmit, Call.isOwn, Call.isSweep]
  · exact steady_of_le (by simp [calls])
  · exact steady_of_le (by simp [calls'])

end ComputeDirectory.Identity.Session
