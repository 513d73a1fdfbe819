import ComputeDirectory.Identity.Session
import ComputeDirectory.Proofs.Identity.Issuer

/-!
# What the operations of a session do

Each operation of a session is told here by one equation for each of its outcomes. `Policy.grant`
decides whether a request for a challenge is granted, and `granted` is what a granted one leaves
behind: the challenge is registered, and tracked as issued if its lifetime can be written. `judge`
decides how a claimed challenge ends, and `conclude` is what that leaves behind. An answer to a
challenge that is not pending changes at most one state.

`judge` looks at the clock, the challenge, the event and the collaborators, and never at the
session: two sessions in which a challenge is pending judge its answer alike.
-/

namespace ComputeDirectory.Identity.Session

/-! ## Forgetting -/

/-- Whether the issuer still knows a challenge. -/
def tracks (s : Session) (id : Text) : Bool := (s.issuer.get? id).isSome || s.issuer.isConsumed id

theorem state?_forgetUntracked (s : Session) (id : Text) :
    s.forgetUntracked.state? id = if s.tracks id then s.state? id else none := by
  show (s.states.filter fun id _ => s.tracks id).get? id = _
  rw [OrderedMap.get?_filter, state?]
  cases s.states.get? id <;> cases s.tracks id <;> simp [Option.filter]

theorem state?_setState (s : Session) (id other : Text) (state : AuthState) :
    (s.setState id state).state? other = if other = id then some state else s.state? other :=
  s.states.get?_insert id other state

/-! ## Issuing -/

/-- The second at which a challenge is granted, or why none is. -/
def Policy.grant (p : Policy) (now : Moment) (claimantKey : Text) (lifetime : Option Int) :
    Except Failure Int :=
  p.issuer.grant now p.serverKey claimantKey (lifetime.getD p.defaultLifetime)

/-- Whether the lifetime of a challenge can be written. -/
def Policy.isNameable (p : Policy) (lifetime : Option Int) : Bool :=
  Json.isShort (lifetime.getD p.defaultLifetime)

/-- The challenge that is registered when a request is granted, and what the issuer keeps then. -/
def registered (p : Policy) (second : Int) (claimantKey : Text) (lifetime : Option Int)
    (s : Session) : Challenge × Issuer :=
  let lifetime := lifetime.getD p.defaultLifetime
  (s.issuer.nextChallenge p.issuer second p.serverKey claimantKey lifetime,
    (s.issuer.register p.issuer second p.serverKey claimantKey lifetime).2)

/-- Enters a registered challenge, before anything is forgotten. -/
def enter (entry : Challenge × Issuer) (s : Session) : Session where
  issuer := entry.2
  states := s.states.insert entry.1.id .issued
  begunSinceSweep := s.begunSinceSweep + 1

/-- Whether the next challenge begun brings a forgetting with it. -/
def ForgetsNext (p : Policy) (s : Session) : Prop := p.sweepEvery ≤ (s.begunSinceSweep + 1 : Nat)

instance (p : Policy) (s : Session) : Decidable (s.ForgetsNext p) :=
  inferInstanceAs (Decidable (p.sweepEvery ≤ (s.begunSinceSweep + 1 : Nat)))

/-- Enters a registered challenge, and forgets if it is time to. -/
def track (p : Policy) (entry : Challenge × Issuer) (s : Session) : Session :=
  if s.ForgetsNext p then (s.enter entry).forgetUntracked else s.enter entry

/-- What is left when a request is granted. The session makes an entry for a challenge that is handed
out; of another one it does not hear. -/
def granted (p : Policy) (second : Int) (claimantKey : Text) (lifetime : Option Int)
    (s : Session) : Session :=
  if p.isNameable lifetime then s.track p (s.registered p second claimantKey lifetime)
  else { s with issuer := (s.registered p second claimantKey lifetime).2 }

/-- What is handed out when a request is granted: the challenge, if its lifetime can be written. -/
def handedOut (p : Policy) (second : Int) (claimantKey : Text) (lifetime : Option Int)
    (s : Session) : Except Failure Challenge :=
  Issuer.handOut (lifetime.getD p.defaultLifetime) (s.registered p second claimantKey lifetime).1

/-- Issuing registers a challenge when it is granted, and changes nothing otherwise. -/
theorem issue_eq (p : Policy) (now : Moment) (claimantKey : Text) (lifetime : Option Int)
    (s : Session) :
    issue p now claimantKey lifetime s =
      match p.grant now claimantKey lifetime with
      | .error f => (.error f, s)
      | .ok second =>
        (s.handedOut p second claimantKey lifetime, s.granted p second claimantKey lifetime) := by
  rw [issue, Issuer.issue_eq, Policy.grant]
  cases p.issuer.grant now p.serverKey claimantKey (lifetime.getD p.defaultLifetime) with
  | error f => rfl
  | ok second =>
    unfold handedOut granted Policy.isNameable Issuer.handOut
    by_cases hshort : Json.isShort (lifetime.getD p.defaultLifetime) = true
    · simp only [hshort, if_true]
      rfl
    · simp only [hshort]
      rfl

section Granted

variable {p : Policy} {second : Int} {claimantKey : Text} {lifetime : Option Int} {s : Session}

theorem handedOut_of_isNameable (h : p.isNameable lifetime = true) :
    s.handedOut p second claimantKey lifetime =
      .ok (s.registered p second claimantKey lifetime).1 := if_pos h

theorem handedOut_of_not_isNameable (h : p.isNameable lifetime = false) :
    s.handedOut p second claimantKey lifetime = .error .unwritable :=
  if_neg (Bool.not_eq_true _ ▸ h)

/-- What is handed out is the challenge that was registered. -/
theorem eq_of_handedOut_eq_ok {c : Challenge}
    (h : s.handedOut p second claimantKey lifetime = .ok c) :
    p.isNameable lifetime = true ∧ (s.registered p second claimantKey lifetime).1 = c :=
  Issuer.eq_of_handOut_eq_ok h

theorem granted_of_isNameable (h : p.isNameable lifetime = true) :
    s.granted p second claimantKey lifetime =
      s.track p (s.registered p second claimantKey lifetime) := if_pos h

theorem granted_of_not_isNameable (h : p.isNameable lifetime = false) :
    s.granted p second claimantKey lifetime =
      { s with issuer := (s.registered p second claimantKey lifetime).2 } :=
  if_neg (Bool.not_eq_true _ ▸ h)

end Granted

@[simp] theorem issuer_track (p : Policy) (entry : Challenge × Issuer) (s : Session) :
    (s.track p entry).issuer = entry.2 := by
  rw [track]
  split <;> rfl

/-- A challenge begun is tracked as issued. Of the other states, a forgetting leaves those of
challenges that the issuer still knows. -/
theorem state?_track (p : Policy) (entry : Challenge × Issuer) (s : Session) (id : Text) :
    (s.track p entry).state? id =
      if s.ForgetsNext p ∧ ((entry.2.get? id).isSome || entry.2.isConsumed id) = false then none
      else if id = entry.1.id then some .issued
      else s.state? id := by
  have henter : (s.enter entry).state? id =
      if id = entry.1.id then some .issued else s.state? id :=
    s.states.get?_insert entry.1.id id .issued
  have hknown : (s.enter entry).tracks id = ((entry.2.get? id).isSome || entry.2.isConsumed id) :=
    rfl
  rw [track]
  by_cases hdue : s.ForgetsNext p
  · rw [if_pos hdue, state?_forgetUntracked, henter, hknown]
    cases (entry.2.get? id).isSome || entry.2.isConsumed id <;> simp [hdue]
  · rw [if_neg hdue, henter]
    simp only [hdue, false_and, if_false]

@[simp] theorem issuer_granted (p : Policy) (second : Int) (claimantKey : Text)
    (lifetime : Option Int) (s : Session) :
    (s.granted p second claimantKey lifetime).issuer =
      (s.registered p second claimantKey lifetime).2 := by
  rw [granted]
  split
  · exact issuer_track ..
  · rfl

/-- A challenge that is handed out is counted, until the next forgetting. -/
theorem begunSinceSweep_granted {p : Policy} {lifetime : Option Int}
    (hname : p.isNameable lifetime = true) (second : Int) (claimantKey : Text) (s : Session) :
    (s.granted p second claimantKey lifetime).begunSinceSweep =
      if s.ForgetsNext p then 0 else s.begunSinceSweep + 1 := by
  rw [granted_of_isNameable hname, track]
  split <;> rfl

/-- A challenge that was granted is pending, also when it is not handed out. -/
theorem get?_granted_self (p : Policy) (second : Int) (claimantKey : Text) {lifetime : Option Int}
    (hlifetime : 0 < lifetime.getD p.defaultLifetime) (s : Session) :
    (s.granted p second claimantKey lifetime).issuer.get?
        (s.registered p second claimantKey lifetime).1.id =
      some (s.registered p second claimantKey lifetime).1 := by
  rw [issuer_granted]
  exact Issuer.get?_register_self p.issuer second p.serverKey claimantKey _ s.issuer hlifetime

/-- When a request is granted, each state is kept or forgotten, but for the challenge handed out. -/
theorem state?_granted_or (p : Policy) (second : Int) (claimantKey : Text) (lifetime : Option Int)
    (s : Session) (id : Text) :
    (s.granted p second claimantKey lifetime).state? id = s.state? id ∨
      (s.granted p second claimantKey lifetime).state? id = none ∨
      (id = (s.registered p second claimantKey lifetime).1.id ∧
        (s.granted p second claimantKey lifetime).state? id = some .issued) := by
  cases hname : p.isNameable lifetime with
  | false =>
    rw [granted_of_not_isNameable hname]
    exact .inl rfl
  | true =>
    rw [granted_of_isNameable hname, state?_track]
    split
    · exact .inr (.inl rfl)
    · split
      · next hid => exact .inr (.inr ⟨hid, rfl⟩)
      · exact .inl rfl

/-- The state of a challenge that stays pending, or remembered, is kept; that of one which is handed
out is issued. -/
theorem state?_granted_of_tracks {p : Policy} {second : Int} {claimantKey : Text}
    {lifetime : Option Int} {s : Session} {id : Text}
    (h : (s.granted p second claimantKey lifetime).tracks id = true) :
    (s.granted p second claimantKey lifetime).state? id =
      if p.isNameable lifetime = true ∧ id = (s.registered p second claimantKey lifetime).1.id then
        some .issued
      else s.state? id := by
  rw [tracks, issuer_granted] at h
  cases hname : p.isNameable lifetime with
  | true =>
    rw [granted_of_isNameable hname, state?_track, h, if_neg (by simp)]
    simp only [true_and]
  | false =>
    rw [granted_of_not_isNameable hname]
    exact (if_neg fun hboth => absurd hboth.1 (by decide)).symm

/-! ## Cancelling and sweeping -/

@[simp] theorem issuer_cancel (id : Text) (s : Session) :
    (s.cancel id).issuer = s.issuer.invalidate id := by
  simp only [cancel]
  split <;> rfl

@[simp] theorem begunSinceSweep_cancel (id : Text) (s : Session) :
    (s.cancel id).begunSinceSweep = s.begunSinceSweep := by
  simp only [cancel]
  split <;> rfl

/-- Cancelling drops the state of an issued challenge. -/
theorem state?_cancel (id : Text) (s : Session) (other : Text) :
    (s.cancel id).state? other =
      if other = id ∧ s.state? id = some .issued then none else s.state? other := by
  have hstate : ({ s with issuer := s.issuer.invalidate id } : Session).state? id = s.state? id :=
    rfl
  simp only [cancel, hstate]
  by_cases hissued : s.state? id = some .issued
  · rw [if_pos hissued]
    show (s.states.erase id).get? other = _
    rw [OrderedMap.get?_erase]
    simp only [hissued, and_true]
    rfl
  · rw [if_neg hissued, if_neg fun h => hissued h.2]
    rfl

/-- A sweep happens at the second that the clock shows, and changes nothing when there is none. -/
theorem sweep_eq (p : Policy) (now : Moment) (s : Session) :
    sweep p now s =
      match p.issuer.second now with
      | .error f => (.error f, s)
      | .ok second =>
        (.ok (s.issuer.sweep p.issuer second).1,
          { s with issuer := (s.issuer.sweep p.issuer second).2 }.forgetUntracked) := by
  rw [sweep, Issuer.sweepNow_eq]
  cases p.issuer.second now with
  | error f => rfl
  | ok second => rfl

/-! ## Answering -/

section Answer

variable {σ : Type}

/-- When an answer in time counts as verified, or why it is refused. -/
def accept (verify : Verifier) (now : Moment) (c : Challenge) (e : SignedEvent) :
    Except Failure Timestamp := do
  checkBinding c e
  verify e
  stamp now

/-- How a claimed challenge ends that is answered at a given second: what is given back, what the
store keeps, and the last state. -/
def judge (second : Except Failure Int) (verify : Verifier) (store : RecordStore σ) (now : Moment)
    (c : Challenge) (e : SignedEvent) (t : σ) : Except Failure AuthRecord × σ × AuthState :=
  match second with
  | .error f => (.error f, t, .rejected)
  | .ok second =>
    if c.isExpired second then (.error (lateness c second), t, .expired)
    else
      match accept verify now c e with
      | .error f => (.error f, t, .rejected)
      | .ok verifiedAt =>
        match store.save (recordOf verifiedAt c e) t with
        | (.error f, t) => (.error f, t, .rejected)
        | (.ok (), t) => (.ok (recordOf verifiedAt c e), t, .authenticated)

/-- Ends a challenge: it is no longer pending, remembered as consumed, and in its last state. -/
def conclude (c : Challenge) (ending : AuthState) (s : Session) : Session :=
  { s with
    issuer := s.issuer.spend c.id c.expiresAt
    states := s.states.insert c.id ending }

theorem state?_conclude (c : Challenge) (ending : AuthState) (s : Session) (id : Text) :
    (s.conclude c ending).state? id = if id = c.id then some ending else s.state? id :=
  s.states.get?_insert c.id id ending

/-- Whether an answer gives a record decides whether its challenge is authenticated. -/
theorem judge_cases (second : Except Failure Int) (verify : Verifier)
    (store : RecordStore σ) (now : Moment) (c : Challenge) (e : SignedEvent) (t : σ) :
    let judged := judge second verify store now c e t
    (∃ r, judged.1 = .ok r ∧ judged.2.2 = .authenticated) ∨
      ∃ f, judged.1 = .error f ∧ (judged.2.2 = .rejected ∨ judged.2.2 = .expired) := by
  unfold judge
  split
  · exact .inr ⟨_, rfl, .inl rfl⟩
  · split
    · exact .inr ⟨_, rfl, .inr rfl⟩
    · split
      · exact .inr ⟨_, rfl, .inl rfl⟩
      · split
        · exact .inr ⟨_, rfl, .inl rfl⟩
        · exact .inl ⟨_, rfl, rfl⟩

/-- The last state of a challenge is terminal, however its answer fails. -/
theorem judge_isTerminal (second : Except Failure Int) (verify : Verifier) (store : RecordStore σ)
    (now : Moment) (c : Challenge) (e : SignedEvent) (t : σ) :
    (judge second verify store now c e t).2.2.isTerminal = true := by
  rcases judge_cases second verify store now c e t with ⟨r, -, h⟩ | ⟨f, -, h | h⟩
  · rw [h]; rfl
  · rw [h]; rfl
  · rw [h]; rfl

/-- An answer that gives a record came in time, is bound to the challenge, and was verified. -/
theorem judge_eq_ok {second : Except Failure Int} {verify : Verifier} {store : RecordStore σ}
    {now : Moment} {c : Challenge} {e : SignedEvent} {t t' : σ} {r : AuthRecord}
    {ending : AuthState} (h : judge second verify store now c e t = (.ok r, t', ending)) :
    ∃ u verifiedAt, second = .ok u ∧ u ≤ c.expiresAt ∧ checkBinding c e = .ok () ∧
      verify e = .ok () ∧ r = recordOf verifiedAt c e ∧ store.save r t = (.ok (), t') ∧
      ending = .authenticated := by
  unfold judge at h
  split at h
  · cases h
  · next u =>
    split at h
    · cases h
    · next hlive =>
      have hintime : u ≤ c.expiresAt := by simpa [Challenge.isExpired] using hlive
      split at h
      · cases h
      · next verifiedAt haccept =>
        split at h
        · cases h
        · next kept hsave =>
          cases h
          simp only [accept, bind, Except.bind] at haccept
          cases hbinding : checkBinding c e with
          | error f =>
            rw [hbinding] at haccept
            cases haccept
          | ok =>
            cases hverify : verify e with
            | error f =>
              rw [hbinding, hverify] at haccept
              cases haccept
            | ok => exact ⟨u, verifiedAt, rfl, hintime, rfl, rfl, rfl, hsave, rfl⟩

/-- An answer that is not in time fails and leaves the store alone. -/
theorem judge_of_late {second : Except Failure Int} (verify : Verifier) (store : RecordStore σ)
    (now : Moment) {c : Challenge} (e : SignedEvent) (t : σ)
    (h : ∀ u, second = .ok u → c.expiresAt < u) :
    ∃ f ending, judge second verify store now c e t = (.error f, t, ending) := by
  cases second with
  | error f => exact ⟨f, .rejected, rfl⟩
  | ok u =>
    have hlate : c.isExpired u = true := by simpa [Challenge.isExpired] using h u rfl
    exact ⟨lateness c u, .expired, by rw [judge, if_pos hlate]⟩

/-- Checking an answer gives what is judged, and keeps the last state unless that is a rejection. -/
theorem checkAnswer_eq (p : Policy) (verify : Verifier) (store : RecordStore σ) (now : Moment)
    (c : Challenge) (e : SignedEvent) (s : Session) (t : σ) :
    checkAnswer p verify store now c e (s, t) =
      let judged := judge (p.issuer.second now) verify store now c e t
      (judged.1, if judged.2.2 = .rejected then s else s.setState c.id judged.2.2, judged.2.1) := by
  rw [checkAnswer]
  cases p.issuer.second now with
  | error f => rfl
  | ok second =>
    show (if c.isExpired second = true then _ else _ : Attempt Failure (Session × σ) AuthRecord)
      (s, t) = _
    by_cases hlate : c.isExpired second = true
    · simp only [hlate, if_true, judge]
      rfl
    · simp only [hlate, judge, accept]
      cases checkBinding c e with
      | error f => rfl
      | ok =>
        cases verify e with
        | error f => rfl
        | ok =>
          cases stamp now with
          | error f => rfl
          | ok verifiedAt =>
            -- saving works on the second half of the state and hands its failure on
            show ((store.save (recordOf verifiedAt c e)).within Prod.snd
              (fun t st => (st.1, t)) >>= _) (s, t) = _
            cases hsave : store.save (recordOf verifiedAt c e) t with
            | mk saved kept =>
              have hwithin : (store.save (recordOf verifiedAt c e)).within Prod.snd
                  (fun t st => (st.1, t)) (s, t) = (saved, s, kept) := by
                simp only [Attempt.within, hsave]
              cases saved with
              | error f =>
                rw [Attempt.bind_of_error hwithin]
                simp only [bind, Except.bind, hsave]
                rfl
              | ok =>
                rw [Attempt.bind_of_ok hwithin]
                simp only [bind, Except.bind, hsave]
                rfl

theorem rejectUnfinished_setState {id : Text} {state : AuthState} {s : Session} :
    rejectUnfinished id (s.setState id state) =
      if state.isTerminal then s.setState id state
      else (s.setState id state).setState id .rejected := by
  have hstate : (s.setState id state).state? id = some state := by
    rw [state?_setState, if_pos rfl]
  rw [rejectUnfinished, hstate]

theorem setState_setState (s : Session) (id : Text) (a b : AuthState) :
    (s.setState id a).setState id b = s.setState id b := by
  simp only [setState, OrderedMap.insert_insert]

variable (p : Policy) (verify : Verifier) (store : RecordStore σ) (now : Moment) {e : SignedEvent}
  {s : Session} (t : σ)

/-- An event that names no challenge changes nothing. -/
theorem submit_of_untagged (htag : e.challengeId? = none) :
    submit p verify store now e (s, t) = (.error (.refused (.unknownChallenge none)), s, t) := by
  rw [submit, htag]

/-- An answer to a consumed challenge changes nothing. -/
theorem submit_of_consumed {id : Text} (htag : e.challengeId? = some id)
    (hpending : s.issuer.get? id = none) (hconsumed : s.issuer.isConsumed id = true) :
    submit p verify store now e (s, t) = (.error (.refused (.challengeConsumed id)), s, t) := by
  rw [submit, htag]
  simp only [Issuer.claim_of_get?_eq_none hpending, hconsumed, if_true]

/-- An answer to a challenge that the issuer does not know rejects it, if it has a state. -/
theorem submit_of_unknown {id : Text} (htag : e.challengeId? = some id)
    (hpending : s.issuer.get? id = none) (hconsumed : s.issuer.isConsumed id = false) :
    submit p verify store now e (s, t) =
      (.error (.refused (.unknownChallenge (some id))),
        if s.states.contains id then s.setState id .rejected else s, t) := by
  rw [submit, htag]
  simp only [Issuer.claim_of_get?_eq_none hpending, hconsumed]
  rfl

/-- An event that names no pending challenge is refused, and at most a state is changed. -/
theorem submit_of_not_pending (h : e.challengeId?.bind s.issuer.get? = none) :
    ∃ f s', submit p verify store now e (s, t) = (.error f, s', t) ∧ s'.issuer = s.issuer := by
  cases htag : e.challengeId? with
  | none => exact ⟨_, s, submit_of_untagged p verify store now t htag, rfl⟩
  | some id =>
    have hpending : s.issuer.get? id = none := by rwa [htag] at h
    cases hconsumed : s.issuer.isConsumed id with
    | true => exact ⟨_, s, submit_of_consumed p verify store now t htag hpending hconsumed, rfl⟩
    | false =>
      refine ⟨_, _, submit_of_unknown p verify store now t htag hpending hconsumed, ?_⟩
      split <;> rfl

/-- An answer to a pending challenge ends it as it is judged. -/
theorem submit_of_pending {c : Challenge} (htag : e.challengeId? = some c.id)
    (hpending : s.issuer.get? c.id = some c) :
    submit p verify store now e (s, t) =
      let judged := judge (p.issuer.second now) verify store now c e t
      (judged.1, s.conclude c judged.2.2, judged.2.1) := by
  let claimed : Session := { s with issuer := s.issuer.spend c.id c.expiresAt }
  -- whatever the ending, it overwrites the state in which the answer was checked
  have hended (ending : AuthState) :
      (claimed.setState c.id .verifying).setState c.id ending = s.conclude c ending :=
    setState_setState claimed c.id .verifying ending
  have hunfinished : rejectUnfinished c.id (claimed.setState c.id .verifying) =
      s.conclude c .rejected := by
    rw [rejectUnfinished_setState, if_neg (by decide), hended]
  have hexpired : rejectUnfinished c.id (s.conclude c .expired) = s.conclude c .expired := by
    rw [← hended, rejectUnfinished_setState, if_pos (by decide)]
  have hanswer : submit p verify store now e (s, t) =
      (checkAnswer p verify store now c e).onFailure
        (fun st => (rejectUnfinished c.id st.1, st.2)) (claimed.setState c.id .verifying, t) := by
    rw [submit, htag]
    simp only [Issuer.claim_of_get?_eq_some hpending]
    rfl
  rw [hanswer, Attempt.onFailure, checkAnswer_eq]
  rcases judge_cases (p.issuer.second now) verify store now c e t with
    ⟨r, hok, hending⟩ | ⟨f, herror, hending | hending⟩
  · simp [hok, hending, hended]
  · simp [herror, hending, hunfinished]
  · simp [herror, hending, hended, hexpired]

end Answer

end ComputeDirectory.Identity.Session
