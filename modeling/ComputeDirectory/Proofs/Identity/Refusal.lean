import ComputeDirectory.Proofs.Attempt
import ComputeDirectory.Proofs.Identity.Coherence
import ComputeDirectory.Proofs.Identity.IssuerHistory
import ComputeDirectory.Proofs.Identity.Soundness

/-!
# Refused calls of a session

A refusal of the session is a verdict on the answer to a pending challenge, which then ends as
rejected or expired, or it changes nothing (`Accounted.submit_refused`). The second half needs the
history of the session: an answer to a challenge that the issuer does not know rejects that
challenge if it still has a state, and the key of a pending challenge has to be well formed, or its
answer would be refused for that reason after it was claimed.

`Accounted` is the invariant that excludes both. The own calls of a session that is in step with its
issuer keep it, also when identifiers repeat, as long as the lifetimes asked for can be written.
-/

namespace ComputeDirectory

/-- Whether a refusal is a verdict on the answer to a claimed challenge. -/
def Refusal.isVerdict : Refusal → Bool
  | .signatureMismatch _ _ | .challengeMismatch _ _ | .challengeExpired _ _ _ => true
  | _ => false

namespace Identity.Session

open Attempt (Avoids)

variable {σ : Type} {p : Policy}

/-! ## What every state and every pending challenge owes to the issuer -/

/-- What the own calls of a session keep while it is in step with its issuer. -/
structure Accounted (p : Policy) (s : Session) : Prop where
  consistent : Consistent p s
  paced : Paced p s
  allIssued : AllIssued s
  /-- What has a state is known to the issuer. -/
  tracked : ∀ {id a}, s.state? id = some a → s.tracks id = true
  /-- What is pending was asked for with a well-formed key. -/
  isKey_of_get? : ∀ {id c}, s.issuer.get? id = some c → isKey c.claimantKey = true

theorem accounted_start (p : Policy) : Accounted p start where
  consistent := consistent_start p
  paced := .of_zero rfl rfl
  allIssued _ _ h := by cases h
  tracked h := by cases h
  isKey_of_get? h := by cases h

namespace Accounted

variable {s : Session}

theorem tracks_iff {id : Text} :
    s.tracks id = true ↔ (∃ c, s.issuer.get? id = some c) ∨ s.issuer.isConsumed id = true := by
  rw [tracks, Bool.or_eq_true, Option.isSome_iff_exists]

theorem tracked_granted (hs : Accounted p s) (hstep : p.InStep) (second : Int) (claimantKey : Text)
    {lifetime : Option Int} (hname : p.isNameable lifetime = true)
    (hlifetime : 0 < lifetime.getD p.defaultLifetime) {id : Text} {a : AuthState}
    (h : (s.granted p second claimantKey lifetime).state? id = some a) :
    (s.granted p second claimantKey lifetime).tracks id = true := by
  rw [granted_of_isNameable hname, state?_track] at h
  by_cases hid : id = (s.registered p second claimantKey lifetime).1.id
  · rw [tracks_iff, hid]
    exact .inl ⟨_, get?_granted_self p second claimantKey hlifetime s⟩
  · by_cases hforgets : s.ForgetsNext p
    · -- a forgetting leaves the states of what the issuer knows
      rw [tracks, issuer_granted]
      refine Bool.of_not_eq_false fun hunknown => ?_
      rw [if_pos ⟨hforgets, hunknown⟩] at h
      cases h
    · -- no forgetting, so no sweep either: what the issuer knew it still knows
      have hsweeps : ¬ s.issuer.SweepsNext p.issuer (lifetime.getD p.defaultLifetime) :=
        fun hdue => hforgets ((hs.paced.forgetsNext_iff_inStep hdue).2 hstep)
      rw [if_neg fun hboth => hforgets hboth.1, if_neg hid] at h
      have hknown := hs.tracked h
      rw [tracks, issuer_granted, registered, Issuer.get?_register_of_ne _ _ _ _ _ _ hid,
        Issuer.isConsumed_register, if_neg hsweeps, if_neg hsweeps]
      exact hknown

theorem tracked_conclude (hs : Accounted p s) (c : Challenge) (ending : AuthState) {id : Text}
    {a : AuthState} (h : (s.conclude c ending).state? id = some a) :
    (s.conclude c ending).tracks id = true := by
  have hget : (s.conclude c ending).issuer.get? id = if id = c.id then none else s.issuer.get? id :=
    Issuer.get?_spend c.id c.expiresAt s.issuer id
  have hmarker : (s.conclude c ending).issuer.isConsumed id =
      (decide (id = c.id) || s.issuer.isConsumed id) :=
    Issuer.isConsumed_spend c.id c.expiresAt s.issuer id
  rw [state?_conclude] at h
  rw [tracks, hget, hmarker]
  by_cases hid : id = c.id
  · simp only [hid, decide_true, Bool.true_or, Bool.or_true]
  · rw [if_neg hid] at h
    have hknown := hs.tracked h
    rw [tracks] at hknown
    simpa only [hid, if_false, decide_false, Bool.false_or] using hknown

/-- A challenge that is cancelled loses its state when it was pending; a consumed one keeps it. -/
theorem tracked_cancel (hs : Accounted p s) (id : Text) {other : Text} {a : AuthState}
    (h : (s.cancel id).state? other = some a) : (s.cancel id).tracks other = true := by
  rw [state?_cancel] at h
  split at h
  · cases h
  · next hkept =>
    rw [tracks_iff, issuer_cancel, Issuer.get?_invalidate]
    rcases tracks_iff.1 (hs.tracked h) with ⟨c, hget⟩ | hconsumed
    · have hother : other ≠ id := by
        rintro rfl
        exact hkept ⟨rfl, hs.allIssued _ _ hget⟩
      rw [if_neg hother]
      exact .inl ⟨c, hget⟩
    · exact .inr hconsumed

/-- A challenge that the issuer does not know has no state. -/
theorem state?_eq_none (hs : Accounted p s) {id : Text} (hpending : s.issuer.get? id = none)
    (hconsumed : s.issuer.isConsumed id = false) : s.state? id = none := by
  refine Option.eq_none_iff_forall_ne_some.2 fun a hstate => ?_
  have hknown := hs.tracked hstate
  rw [tracks, hpending, hconsumed] at hknown
  cases hknown

/-- An answer to a challenge that the issuer does not know changes nothing. -/
theorem submit_of_unknown (hs : Accounted p s) (verify : Verifier) (store : RecordStore σ)
    (now : Moment) {e : SignedEvent} (t : σ) {id : Text} (htag : e.challengeId? = some id)
    (hpending : s.issuer.get? id = none) (hconsumed : s.issuer.isConsumed id = false) :
    submit p verify store now e (s, t) =
      (.error (.refused (.unknownChallenge (some id))), s, t) := by
  have hcontains : s.states.contains id = false := by
    show (s.state? id).isSome = false
    rw [hs.state?_eq_none hpending hconsumed]
    rfl
  rw [Session.submit_of_unknown p verify store now t htag hpending hconsumed, hcontains]
  rfl

theorem tracked_submit (hs : Accounted p s) (verify : Verifier) (store : RecordStore σ)
    (now : Moment) (e : SignedEvent) (t : σ) {id : Text} {a : AuthState}
    (h : (submit p verify store now e (s, t)).2.1.state? id = some a) :
    (submit p verify store now e (s, t)).2.1.tracks id = true := by
  rcases hs.consistent.submit_cases verify store now e t with
    ⟨c, ending, -, -, -, hafter⟩ | ⟨named, b, hpending, hconsumed, hstate, -⟩ | hafter
  · rw [hafter] at h ⊢
    exact hs.tracked_conclude c ending h
  · rw [hs.state?_eq_none hpending hconsumed] at hstate
    cases hstate
  · rw [hafter] at h ⊢
    exact hs.tracked h

theorem tracked_perform {st : Session × σ} (hs : Accounted p st.1) (hstep : p.InStep) (now : Moment)
    {call : Call σ} (hown : call.isOwn = true) (hname : call.isNameable p = true) {id : Text}
    {a : AuthState}
    (h : (perform p now call st).2.1.state? id = some a) :
    (perform p now call st).2.1.tracks id = true := by
  obtain ⟨s, t⟩ := st
  cases call with
  | issue claimantKey lifetime =>
    simp only [perform, issue_eq] at h ⊢
    cases hgrant : p.grant now claimantKey lifetime with
    | error f =>
      rw [hgrant] at h
      exact hs.tracked h
    | ok second =>
      rw [hgrant] at h
      exact hs.tracked_granted hstep second claimantKey hname (Issuer.Policy.grant_eq_ok hgrant).1 h
  | submit verify store e => exact hs.tracked_submit verify store now e t h
  | cancel id => exact hs.tracked_cancel id h
  | sweep =>
    simp only [perform, sweep_eq] at h ⊢
    cases hsecond : p.issuer.second now with
    | error f =>
      rw [hsecond] at h
      exact hs.tracked h
    | ok second =>
      rw [hsecond] at h
      refine Bool.of_not_eq_false fun hunknown => ?_
      rw [state?_forgetUntracked] at h
      split at h
      · next hknown => exact absurd hknown (Bool.eq_false_iff.1 hunknown)
      · cases h
  | claim id => cases hown
  | invalidate id => cases hown
  | sweepIssuer second => cases hown

/-- A call of a session in step with its issuer keeps it accounted. -/
theorem perform {st : Session × σ} (hs : Accounted p st.1) (hstep : p.InStep) (now : Moment)
    {call : Call σ} (hown : call.isOwn = true) (hname : call.isNameable p = true) :
    Accounted p (Session.perform p now call st).2.1 where
  consistent := hs.consistent.perform now call
  paced := hs.paced.perform hs.consistent hstep now hown hname
  allIssued := hs.allIssued.perform hs.consistent now hname
  tracked h := hs.tracked_perform hstep now hown hname h
  isKey_of_get? := by
    intro id c hget
    rcases get?_perform hs.consistent hget with
      hold | ⟨-, claimantKey, lifetime, second, -, hgrant, rfl, -⟩
    · exact hs.isKey_of_get? hold
    · exact (Issuer.Policy.isKey_of_grant hgrant).2

end Accounted

/-! ## What a refusal leaves behind -/

/-- Reading the clock of an issuer is never refused. -/
theorem not_isRefused_of_second {now : Moment} {f : Failure}
    (h : p.issuer.second now = .error f) : ¬ f.IsRefused := by
  rintro ⟨refusal, rfl⟩
  cases hread : p.issuer.clock.read now with
  | ok second =>
    rw [Issuer.Policy.second, hread] at h
    cases h
  | error fault =>
    rw [Issuer.Policy.second, hread] at h
    cases h

theorem isVerdict_of_checkBinding {c : Challenge} {e : SignedEvent} {refusal : Refusal}
    (h : checkBinding c e = .error (.refused refusal)) : refusal.isVerdict = true := by
  unfold checkBinding at h
  split at h
  · rw [Failure.eq_of_ofRefusal_eq_refused (Except.error.inj h)]
    rfl
  · split at h
    · cases h
      rfl
    · split at h
      · cases h
        rfl
      · cases h

/-- An event without a digest is not refused. -/
theorem not_isRefused_digestFailure (e : SignedEvent) : ¬ (digestFailure e).IsRefused := by
  rintro ⟨refusal, h⟩
  unfold digestFailure at h
  split at h
  · cases h
  · cases h

/-- With a well-formed key, an event is refused for its signature only. -/
theorem isVerdict_of_verifySignature {e : SignedEvent} (hkey : isKey e.publicKey = true)
    {refusal : Refusal} (h : verifySignature e = .error (.refused refusal)) :
    refusal.isVerdict = true := by
  rw [verifySignature, hkey] at h
  cases hdigest : e.digest? with
  | none =>
    rw [hdigest] at h
    exact absurd ⟨refusal, Except.error.inj h⟩ (not_isRefused_digestFailure e)
  | some digest =>
    cases hverify : verifyDigest e digest with
    | ok =>
      rw [hdigest] at h
      simp only [hverify] at h
      cases h
    | error fault =>
      rw [hdigest] at h
      simp only [hverify] at h
      cases h
      rfl

/-- An answer of a well-formed key that is refused in time is refused by a verdict. -/
theorem isVerdict_of_accept {now : Moment} {c : Challenge} (hkey : isKey c.claimantKey = true)
    {e : SignedEvent} {refusal : Refusal}
    (h : accept schnorrVerifier now c e = .error (.refused refusal)) :
    refusal.isVerdict = true := by
  cases hbinding : checkBinding c e with
  | error f =>
    rw [accept, hbinding] at h
    cases h
    exact isVerdict_of_checkBinding hbinding
  | ok =>
    have hclaimant := (checkBinding_eq_ok hbinding).2.2
    cases hverify : schnorrVerifier e with
    | error f =>
      rw [accept, hbinding, hverify] at h
      cases h
      exact isVerdict_of_verifySignature (hclaimant ▸ hkey) hverify
    | ok =>
      rw [accept, hbinding, hverify] at h
      exact absurd ⟨refusal, rfl⟩ (not_isRefused_of_stamp h)

variable {store : RecordStore σ}

/-- An answer to a challenge of a well-formed key that is refused is refused by a verdict, and
nothing is stored. -/
theorem judge_refused {now : Moment} {c : Challenge} (hkey : isKey c.claimantKey = true)
    (hsave : ∀ r, Avoids Failure.IsRefused (store.save r)) {e : SignedEvent} {t : σ}
    {refusal : Refusal}
    (h : (judge (p.issuer.second now) schnorrVerifier store now c e t).1 =
      .error (.refused refusal)) :
    refusal.isVerdict = true ∧
      (judge (p.issuer.second now) schnorrVerifier store now c e t).2.1 = t := by
  cases hsecond : p.issuer.second now with
  | error f =>
    rw [hsecond] at h
    cases h
    exact absurd ⟨refusal, rfl⟩ (not_isRefused_of_second hsecond)
  | ok second =>
    rw [hsecond] at h
    unfold judge at h ⊢
    by_cases hlate : c.isExpired second = true
    · simp only [hlate, if_true] at h ⊢
      rw [Failure.eq_of_ofRefusal_eq_refused (Except.error.inj h)]
      exact ⟨rfl, trivial⟩
    · simp only [hlate] at h ⊢
      cases haccept : accept schnorrVerifier now c e with
      | error f =>
        simp only [haccept] at h ⊢
        cases h
        exact ⟨isVerdict_of_accept hkey haccept, rfl⟩
      | ok verifiedAt =>
        simp only [haccept] at h ⊢
        cases hstored : store.save (recordOf verifiedAt c e) t with
        | mk saved kept =>
          cases saved with
          | ok =>
            simp only [hstored] at h
            cases h
          | error f =>
            simp only [hstored] at h
            cases h
            exact absurd ⟨refusal, rfl⟩ (hsave _ t _ (by rw [hstored]))

/-- A refused request for a challenge changes nothing. -/
theorem issue_refused {s : Session} {now : Moment} {claimantKey : Text} {lifetime : Option Int}
    {refusal : Refusal}
    (h : (issue p now claimantKey lifetime s).1 = .error (.refused refusal)) :
    (issue p now claimantKey lifetime s).2 = s := by
  rw [issue_eq] at h ⊢
  cases hgrant : p.grant now claimantKey lifetime with
  | error f => rfl
  | ok second =>
    -- what is granted is not refused: it is handed out, or its lifetime cannot be written
    rw [hgrant] at h
    cases hname : p.isNameable lifetime with
    | true =>
      simp only [handedOut_of_isNameable hname] at h
      cases h
    | false =>
      simp only [handedOut_of_not_isNameable hname] at h
      cases h

/-- A refused answer ends the pending challenge that it names as rejected or expired when the
refusal is a verdict on it, and changes nothing otherwise. -/
theorem Accounted.submit_refused {s : Session} (hs : Accounted p s)
    (hsave : ∀ r, Avoids Failure.IsRefused (store.save r)) {now : Moment} {e : SignedEvent} {t : σ}
    {refusal : Refusal}
    (h : (submit p schnorrVerifier store now e (s, t)).1 = .error (.refused refusal)) :
    (refusal.isVerdict = false ∧ (submit p schnorrVerifier store now e (s, t)).2 = (s, t)) ∨
      (refusal.isVerdict = true ∧ ∃ c ending, e.challengeId? = some c.id ∧
        s.issuer.get? c.id = some c ∧ s.state? c.id = some .issued ∧
        (ending = .rejected ∨ ending = .expired) ∧
        (submit p schnorrVerifier store now e (s, t)).2 = (s.conclude c ending, t)) := by
  cases htag : e.challengeId? with
  | none =>
    rw [submit_of_untagged p schnorrVerifier store now t htag] at h ⊢
    cases h
    exact .inl ⟨rfl, rfl⟩
  | some id =>
    cases hget : s.issuer.get? id with
    | none =>
      cases hconsumed : s.issuer.isConsumed id with
      | true =>
        rw [submit_of_consumed p schnorrVerifier store now t htag hget hconsumed] at h ⊢
        cases h
        exact .inl ⟨rfl, rfl⟩
      | false =>
        rw [hs.submit_of_unknown schnorrVerifier store now t htag hget hconsumed] at h ⊢
        cases h
        exact .inl ⟨rfl, rfl⟩
    | some c =>
      obtain ⟨rfl, -⟩ := hs.consistent.filed hget
      rw [submit_of_pending p schnorrVerifier store now t htag hget] at h ⊢
      obtain ⟨hverdict, hkept⟩ := judge_refused (hs.isKey_of_get? hget) hsave h
      refine .inr ⟨hverdict, c, _, rfl, hget, hs.allIssued _ _ hget, ?_,
        Prod.ext rfl hkept⟩
      rcases judge_cases (p.issuer.second now) schnorrVerifier store now c e t with
        ⟨r, hok, -⟩ | ⟨f, -, hending⟩
      · rw [hok] at h
        cases h
      · exact hending

end Identity.Session

end ComputeDirectory
