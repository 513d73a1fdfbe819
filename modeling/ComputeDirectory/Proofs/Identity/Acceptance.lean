import ComputeDirectory.Proofs.Identity.Soundness
import ComputeDirectory.Proofs.Identity.Sweeping

/-!
# Honest claimants are accepted

A challenge that nobody has touched waits for its claimant up to and including the second of its
expiry. Whatever else happens in a run, requests of others and the sweeps that they bring with them
included, an answer as it was asked for is then accepted, and its record is the one found.

The invariant is that the challenge is pending. A sweep is the only call that could drop it without
naming it, and as long as the clock does not go back no sweep of the run comes after the second of
the answer (`get?_perform_of_not_touches`).
-/

namespace ComputeDirectory.Identity

/-! ## Stores that do not fail -/

/-- A store of records that never fails to save, and under an identity finds what was saved last.
Only records with a time of the calendar are asked about: a session saves no others. -/
structure RecordStore.Reliable {σ : Type} (store : RecordStore σ) : Prop where
  saves : ∀ r t, ∃ t', store.save r t = (.ok (), t')
  finds : ∀ {r t t' now}, stamp now = .ok r.verifiedAt → store.save r t = (.ok (), t') →
    (store.find? r.identity t').1 = .ok (some r)

theorem shelfRecords_reliable : shelfRecords.Reliable where
  saves r t := ⟨t.insert r.identity r, rfl⟩
  finds := by
    rintro r t t' now - ⟨⟩
    show Except.ok ((t.insert r.identity r).get? r.identity) = _
    rw [OrderedMap.get?_insert, if_pos rfl]

namespace Session

variable {σ : Type} {p : Policy}

/-! ## Challenges that are left alone -/

/-- A call names a challenge, or sweeps the issuer at a given second that is past its expiry. -/
def Call.Touches (c : Challenge) : Call σ → Prop
  | .submit _ _ e => e.challengeId? = some c.id
  | .cancel id | .claim id | .invalidate id => id = c.id
  | .sweepIssuer (some second) => c.expiresAt < second
  | .issue _ _ | .sweep | .sweepIssuer none => False

/-- An answer to another challenge, or to none, leaves a challenge pending. -/
theorem get?_submit_of_ne {s : Session} (hs : Consistent p s) {id : Text} {e : SignedEvent}
    (hid : e.challengeId? ≠ some id) (verify : Verifier) (store : RecordStore σ) (now : Moment)
    (t : σ) : (submit p verify store now e (s, t)).2.1.issuer.get? id = s.issuer.get? id := by
  cases hnamed : e.challengeId?.bind s.issuer.get? with
  | none =>
    obtain ⟨f, s', hsubmit, hissuer⟩ := submit_of_not_pending p verify store now t hnamed
    rw [hsubmit]
    exact congrArg (fun issuer => issuer.get? id) hissuer
  | some d =>
    obtain ⟨other, htag, hget⟩ := Option.bind_eq_some_iff.1 hnamed
    obtain ⟨rfl, -⟩ := hs.filed hget
    rw [submit_of_pending p verify store now t htag hget]
    have hother : id ≠ d.id := by
      rintro rfl
      exact hid htag
    exact (Issuer.get?_spend d.id d.expiresAt s.issuer id).trans (if_neg hother)

/-- What no call touches stays pending while it has not expired. -/
theorem get?_perform_of_not_touches {st : Session × σ} (hs : Consistent p st.1)
    (htoken : Function.Injective p.issuer.token) {now : Moment} {call : Call σ} {c : Challenge}
    (hget : st.1.issuer.get? c.id = some c) (hcall : ¬ call.Touches c)
    (htime : ∀ second, p.issuer.second now = .ok second → second ≤ c.expiresAt) :
    (perform p now call st).2.1.issuer.get? c.id = some c := by
  obtain ⟨s, t⟩ := st
  cases call with
  | issue claimantKey lifetime =>
    simp only [perform, issue_eq]
    cases hgrant : p.grant now claimantKey lifetime with
    | error f => exact hget
    | ok second =>
      have hlive := htime second (Issuer.Policy.grant_eq_ok hgrant).2
      have hnew : c.id ≠ p.issuer.token s.issuer.drawn :=
        (hs.drawn_of_get? hget).ne_token htoken
      have hkeep : c.isExpired second = false := by simpa [Challenge.isExpired] using hlive
      -- the sweep that the request may bring with it is at the second of the request
      rw [issuer_granted, registered, Issuer.get?_register_of_ne _ _ _ _ _ _ hnew, hget,
        Option.filter_some_pos (by rw [hkeep]; rfl), ite_self]
  | submit verify store e =>
    exact (get?_submit_of_ne hs hcall verify store now t).trans hget
  | cancel id =>
    show (s.cancel id).issuer.get? c.id = _
    rw [issuer_cancel, Issuer.get?_invalidate, if_neg fun hid => hcall hid.symm]
    exact hget
  | sweep =>
    simp only [perform, sweep_eq]
    cases hsecond : p.issuer.second now with
    | error f => exact hget
    | ok second => exact Issuer.get?_sweep_of_get? hget (htime second hsecond)
  | claim id =>
    show (Issuer.claim id s.issuer).2.get? c.id = _
    cases hother : s.issuer.get? id with
    | none => rwa [Issuer.claim_of_get?_eq_none hother]
    | some d =>
      rw [Issuer.claim_of_get?_eq_some hother, Issuer.get?_spend,
        if_neg fun hid => hcall hid.symm]
      exact hget
  | invalidate id =>
    show (s.issuer.invalidate id).get? c.id = _
    rw [Issuer.get?_invalidate, if_neg fun hid => hcall hid.symm]
    exact hget
  | sweepIssuer second =>
    cases second with
    | some second => exact Issuer.get?_sweep_of_get? hget (Int.not_lt.1 hcall)
    | none =>
      simp only [perform, Issuer.sweepNow_eq]
      cases hsecond : p.issuer.second now with
      | error f => exact hget
      | ok second => exact Issuer.get?_sweep_of_get? hget (htime second hsecond)

/-- What a run does not touch is pending at its end, if it has not expired in it. -/
theorem get?_final_of_not_touches {calls : List (Moment × Call σ)} {st : Session × σ}
    (hs : Consistent p st.1) (htoken : Function.Injective p.issuer.token) {c : Challenge}
    (hget : st.1.issuer.get? c.id = some c)
    (hcalls : ∀ call ∈ calls, ¬ call.2.Touches c ∧
      ∀ second, p.issuer.second call.1 = .ok second → second ≤ c.expiresAt) :
    (final p calls st).1.issuer.get? c.id = some c := by
  induction calls generalizing st with
  | nil => exact hget
  | cons first calls ih =>
    obtain ⟨now, call⟩ := first
    obtain ⟨hcall, htime⟩ := hcalls (now, call) (List.mem_cons_self ..)
    exact ih (hs.perform now call) (get?_perform_of_not_touches hs htoken hget hcall htime)
      fun call hcall => hcalls call (List.mem_cons_of_mem _ hcall)

/-! ## Acceptance -/

theorem mem_history_of_mem (p : Policy) {calls : List (Moment × Call σ)} (st : Session × σ)
    {call : Moment × Call σ} (h : call ∈ calls) :
    ∃ s ∈ history p calls st, s.now = call.1 ∧ s.call = call.2 := by
  induction calls generalizing st with
  | nil => cases h
  | cons first calls ih =>
    rcases List.mem_cons.1 h with rfl | h
    · exact ⟨_, List.mem_cons_self .., rfl, rfl⟩
    · obtain ⟨s, hs, heq⟩ := ih (perform p first.1 first.2 st).2 h
      exact ⟨s, List.mem_cons_of_mem _ hs, heq⟩

/-- A challenge begun in a run is pending at its end, if it was left alone since then and the clock
has not passed its expiry. -/
theorem get?_final_of_begins (htoken : Function.Injective p.issuer.token)
    {calls : List (Moment × Call σ)} {records : σ} {l r : List (Step σ)} {b : Step σ}
    {c : Challenge} (hsteps : history p calls (start, records) = l ++ b :: r)
    (hbegins : b.Begins c) (huntouched : ∀ s ∈ r, ¬ s.call.Touches c)
    (htime : ∀ call ∈ calls, ∀ second, p.issuer.second call.1 = .ok second →
      second ≤ c.expiresAt) :
    (final p calls (start, records)).1.issuer.get? c.id = some c := by
  obtain ⟨before, begunAt, call, after, rfl, -, rfl, rfl⟩ := history_eq_append_cons hsteps
  have hbefore := consistent_final p before records
  rw [final_append]
  refine get?_final_of_not_touches (hbefore.perform begunAt call) htoken
    (registers_of_begins htoken hbefore hbegins).2.2 ?_
  intro later hlater
  obtain ⟨s, hs, -, hcall⟩ := mem_history_of_mem p
    (perform p begunAt call (final p before (start, records))).2 hlater
  refine ⟨?_, htime later (by simp [hlater])⟩
  rw [← hcall]
  exact huntouched s hs

/-- An honest claimant is accepted. A challenge was begun and since then left alone; the clock does
not go back in the run, and at the answer it shows a moment of the calendar and has not passed the
expiry. Then the answer that was asked for gives the record of the claimant, the challenge is
authenticated, and the record is found under the claimant's key. -/
theorem honest_answer_authenticated (p : Policy) (htoken : Function.Injective p.issuer.token)
    (calls : List (Moment × Call σ)) (records : σ) (l r : List (Step σ)) (b : Step σ)
    (c : Challenge) (hsteps : history p calls (start, records) = l ++ b :: r)
    (hbegins : b.Begins c) (huntouched : ∀ s ∈ r, ¬ s.call.Touches c)
    (now : Moment) (verify : Verifier) (store : RecordStore σ) (e : SignedEvent)
    (hsteady : Steady p (calls ++ [(now, .submit verify store e)])) (second : Int)
    (hsecond : p.issuer.second now = .ok second) (hintime : second ≤ c.expiresAt)
    (hcalendar : now.isInCalendar = true) (hanswer : c.AnsweredBy e) (hverify : verify e = .ok ())
    (hstore : store.Reliable) :
    ∃ record s t,
      submit p verify store now e (final p calls (start, records)) = (.ok record, s, t) ∧
      record.identity = c.claimantKey ∧ record.challengeId = c.id ∧
      s.state? c.id = some .authenticated ∧
      (store.find? c.claimantKey t).1 = .ok (some record) := by
  have hpending : (final p calls (start, records)).1.issuer.get? c.id = some c := by
    refine get?_final_of_begins htoken hsteps hbegins huntouched ?_
    intro call hcall earlier hearlier
    -- no call of the run is later than the answer
    have hle : earlier ≤ second :=
      (List.pairwise_append.1 hsteady).2.2 call hcall _ (List.mem_singleton_self _) earlier second
        hearlier hsecond
    omega
  have hstamp := stamp_of_isInCalendar hcalendar
  obtain ⟨t, hsave⟩ := hstore.saves (recordOf (.utc now) c e) (final p calls (start, records)).2
  refine ⟨recordOf (.utc now) c e,
    (final p calls (start, records)).1.conclude c .authenticated, t,
    submit_of_answeredBy hpending hanswer hsecond hintime hverify hstamp hsave,
    hanswer.publicKey, rfl, ?_, ?_⟩
  · rw [state?_conclude, if_pos rfl]
  · rw [← hanswer.publicKey]
    exact hstore.finds hstamp hsave

/-- While a challenge waits, another one is begun and cancelled, and the issuer sweeps with every
request. The answer comes at the very second of the expiry, with a text, a time and a tag of its
own. -/
theorem honest_answer_authenticated_sample :
    let p := samplePolicy 1 1 0
    let calls : List (Moment × Call RecordShelf) := [(0, sampleIssue), (30000000, sampleIssue),
      (31000000, .cancel (sampleToken 1)), (60000000, .sweep)]
    let c : Challenge := ⟨sampleToken 0, sampleKey, sampleKey, 0, 60⟩
    let e : SignedEvent :=
      { sampleAnswer 0 with
        createdAt := 59
        tags := c.template.tags ++ [[serverKeyTag, "elsewhere"]]
        content := "hello" }
    ∃ record s t,
      submit p (fun _ => .ok ()) shelfRecords 60999999 e (final p calls (start, .empty)) =
        (.ok record, s, t) ∧
      record.identity = c.claimantKey ∧ record.challengeId = c.id ∧
      s.state? c.id = some .authenticated ∧
      (shelfRecords.find? c.claimantKey t).1 = .ok (some record) := by
  intro p calls c e
  have hsteps : history p calls (start, .empty) = [] ++ stepOf p 0 sampleIssue (start, .empty) ::
      history p (calls.drop 1) (perform p 0 sampleIssue (start, .empty)).2 := rfl
  refine honest_answer_authenticated p sampleToken_injective calls .empty _ _ _ c hsteps
    ⟨⟨_, _, rfl⟩, rfl⟩ ?_ 60999999 (fun _ => .ok ()) shelfRecords e ?_ 60 rfl (by decide) (by decide)
    ⟨rfl, ⟨_, rfl⟩, rfl⟩ rfl shelfRecords_reliable
  · have hother : sampleToken 1 ≠ sampleToken 0 := by decide
    simp [calls, history, stepOf, sampleIssue, Call.Touches, c, hother]
  · exact steady_of_le (by simp [calls])

end Session

end ComputeDirectory.Identity
