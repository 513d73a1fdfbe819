import ComputeDirectory.Proofs.Identity.Soundness
import ComputeDirectory.Proofs.Json.Short
import ComputeDirectory.Service.State

/-!
# How answers are settled

The first check that fails settles an answer, and the checks come in a fixed order: the clock, the
kind of the event, the server, the claimant, the verifier, the date of the record, the store.
`Settles` has one rule for each way to end, with everything that has to go well before it. What the
verifier or the store fails with is handed on as it is, also when it looks like a failure that the
session itself makes: the last state goes by the rule and not by the failure.

`answer_settled` tells what an answer does in every session that a run can reach. Pending challenges
are filed under their own identifiers there (`Consistent`), so the challenge that is claimed is the
one that is ended. They were issued at a second of the clock and before their expiry (`IsDated`), so
an expiry that has passed has no more digits than the clock shows, and the refusal can name it. The
clock of a deployment shows few digits enough (`late_answer_told`).
-/

namespace ComputeDirectory

/-! ## Clocks whose seconds can be named -/

/-- A clock that shows no number with more digits than are written. -/
def SecondClock.IsNameable (clock : SecondClock) : Prop :=
  ∀ {now : Moment} {u : Int}, clock.read now = .ok u → Json.isShort u = true

/-- The clock that counts in binary64 shows no number beyond its range. -/
theorem SecondClock.truncated_isNameable : truncated.IsNameable := by
  intro now u h
  obtain ⟨hreadable, rfl⟩ := truncated_read_eq_ok_iff.1 h
  have habs : (truncatedSeconds now).natAbs = binary64Seconds now.natAbs := by
    unfold truncatedSeconds
    split
    · rw [Int.natAbs_neg, Int.natAbs_natCast]
    · rw [Int.natAbs_natCast]
  have hrange : binary64Seconds now.natAbs ≤ Binary64.overflow :=
    Nat.le_trans (Nat.div_le_self ..) (Binary64.rounded_le_overflow (by decide)
      (Binary64.rounded_lt_of_isFinite (Binary64.isFinite_of_ofInt? hreadable)))
  exact Json.isShort_of_natAbs_le_overflow (habs.symm ▸ hrange)

/-- The session of a deployment goes by the clock that counts in binary64. -/
theorem Service.Deployment.isNameable_sessionPolicy {τ : Type} {d : Deployment τ} {s : Settings}
    {p : Identity.Session.Policy} (h : d.sessionPolicy s = .ok p) : p.issuer.clock.IsNameable := by
  rw [sessionPolicy, Identity.Issuer.Policy.make?] at h
  by_cases hvalid : 1 ≤ s.sweepEvery ∧ 0 ≤ s.consumedRetention
  · rw [dif_pos hvalid] at h
    cases h
    exact SecondClock.truncated_isNameable
  · rw [dif_neg hvalid] at h
    cases h

namespace Identity

namespace Session

variable {σ : Type} {p : Policy}

/-! ## The rules -/

/-- The clock can be read, and has not passed the expiry of a challenge. -/
def InTime (second : Except Failure Int) (c : Challenge) : Prop :=
  ∃ u, second = .ok u ∧ u ≤ c.expiresAt

/-- An event of the right kind, from the claimant of a challenge to its server. -/
structure IsBoundTo (c : Challenge) (e : SignedEvent) : Prop where
  kind : e.kind = authEventKind
  server : e.serverKey? = some c.serverKey
  claimant : e.publicKey = c.claimantKey

/-- How an answer to a claimed challenge is settled: what is given back, the last state of the
challenge, and what the store holds afterwards. -/
inductive Settles (second : Except Failure Int) (verify : Verifier) (store : RecordStore σ)
    (now : Moment) (c : Challenge) (e : SignedEvent) (t : σ) :
    Except Failure AuthRecord → AuthState → σ → Prop
  /-- The clock cannot be read. -/
  | clockless {f} (hsecond : second = .error f) :
    Settles second verify store now c e t (.error f) .rejected t
  /-- The expiry has passed; nothing else about the event is looked at. -/
  | late {u} (hsecond : second = .ok u) (hlate : c.expiresAt < u) :
    Settles second verify store now c e t (.error (lateness c u)) .expired t
  | kindDiffers (htime : InTime second c) (hkind : e.kind ≠ authEventKind)
      (hname : Json.isShort e.kind = true) :
    Settles second verify store now c e t
      (.error (.refused (.challengeMismatch c.id (.kindDiffers e.kind authEventKind)))) .rejected t
  /-- The kind differs, and has too many digits for the refusal to name it. -/
  | longKind (htime : InTime second c) (hname : Json.isShort e.kind = false) :
    Settles second verify store now c e t (.error .unwritable) .rejected t
  | serverDiffers (htime : InTime second c) (hkind : e.kind = authEventKind)
      (hserver : e.serverKey? ≠ some c.serverKey) :
    Settles second verify store now c e t
      (.error (.refused (.challengeMismatch c.id .serverKeyDiffers))) .rejected t
  | claimantDiffers (htime : InTime second c) (hkind : e.kind = authEventKind)
      (hserver : e.serverKey? = some c.serverKey) (hclaimant : e.publicKey ≠ c.claimantKey) :
    Settles second verify store now c e t
      (.error (.refused (.challengeMismatch c.id .claimantKeyDiffers))) .rejected t
  /-- The verifier fails, with whatever failure. -/
  | unverified {f} (htime : InTime second c) (hbound : IsBoundTo c e)
      (hverify : verify e = .error f) :
    Settles second verify store now c e t (.error f) .rejected t
  /-- The moment has no date that a record could carry. -/
  | undated {f} (htime : InTime second c) (hbound : IsBoundTo c e) (hverify : verify e = .ok ())
      (hstamp : stamp now = .error f) :
    Settles second verify store now c e t (.error f) .rejected t
  /-- The store fails, with whatever failure. -/
  | unsaved {f verifiedAt} (htime : InTime second c) (hbound : IsBoundTo c e)
      (hverify : verify e = .ok ()) (hstamp : stamp now = .ok verifiedAt)
      (hsave : store.save (recordOf verifiedAt c e) t = (.error f, t)) :
    Settles second verify store now c e t (.error f) .rejected t
  /-- The record is saved and given back. -/
  | saved {verifiedAt t'} (htime : InTime second c) (hbound : IsBoundTo c e)
      (hverify : verify e = .ok ()) (hstamp : stamp now = .ok verifiedAt)
      (hsave : store.save (recordOf verifiedAt c e) t = (.ok (), t')) :
    Settles second verify store now c e t (.ok (recordOf verifiedAt c e)) .authenticated t'

variable {second : Except Failure Int} {verify : Verifier} {store : RecordStore σ} {now : Moment}
  {c : Challenge} {e : SignedEvent} {t : σ}

theorem isShort_authEventKind : Json.isShort authEventKind = true := by decide

/-- A kind that differs is named if it can be written. -/
theorem checkBinding_of_kind (hkind : e.kind ≠ authEventKind) (hname : Json.isShort e.kind = true) :
    checkBinding c e =
      .error (.refused (.challengeMismatch c.id (.kindDiffers e.kind authEventKind))) := by
  rw [checkBinding, if_pos hkind, Failure.ofRefusal_of_isShort]
  intro n hn
  rcases List.mem_cons.1 hn with rfl | hn
  · exact hname
  · rw [List.mem_singleton.1 hn]
    exact isShort_authEventKind

/-- The kind of an answer has few digits, so one of too many differs from it. -/
theorem checkBinding_of_longKind (hname : Json.isShort e.kind = false) :
    checkBinding c e = .error .unwritable := by
  have hkind : e.kind ≠ authEventKind := by
    intro hkind
    rw [hkind, isShort_authEventKind] at hname
    cases hname
  rw [checkBinding, if_pos hkind,
    Failure.ofRefusal_of_not_isShort (List.mem_cons_self ..) hname]

/-- An answer in time that is not accepted is rejected. -/
theorem judge_of_not_accepted {f : Failure} (htime : InTime second c)
    (haccept : accept verify now c e = .error f) :
    judge second verify store now c e t = (.error f, t, .rejected) := by
  obtain ⟨u, rfl, hle⟩ := htime
  have hlive : c.isExpired u = false := by simpa [Challenge.isExpired] using hle
  simp only [judge, hlive, haccept]
  rfl

/-- The store has the last word on an answer in time that is accepted. -/
theorem judge_of_accepted {verifiedAt : Timestamp} {saved : Except Failure Unit} {t' : σ}
    (htime : InTime second c) (haccept : accept verify now c e = .ok verifiedAt)
    (hsave : store.save (recordOf verifiedAt c e) t = (saved, t')) :
    judge second verify store now c e t =
      match saved with
      | .error f => (.error f, t', .rejected)
      | .ok () => (.ok (recordOf verifiedAt c e), t', .authenticated) := by
  obtain ⟨u, rfl, hle⟩ := htime
  have hlive : c.isExpired u = false := by simpa [Challenge.isExpired] using hle
  simp only [judge, hlive, haccept, hsave]
  cases saved <;> rfl

/-- An event that is bound to its challenge is left to the verifier. -/
theorem accept_of_isBoundTo (h : IsBoundTo c e) :
    accept verify now c e = (do verify e; stamp now) := by
  have hbinding : checkBinding c e = .ok () := by
    simp [checkBinding, h.kind, h.server, h.claimant]
  rw [accept, hbinding]
  rfl

/-- What a rule says is what is judged, so no two rules apply to one answer. -/
theorem Settles.judge_eq {result : Except Failure AuthRecord} {ending : AuthState} {t' : σ}
    (h : Settles second verify store now c e t result ending t') :
    judge second verify store now c e t = (result, t', ending) := by
  cases h with
  | clockless hsecond =>
    rw [hsecond]
    rfl
  | late hsecond hlate =>
    rw [hsecond]
    simp [judge, Challenge.isExpired, hlate]
  | kindDiffers htime hkind hname =>
    refine judge_of_not_accepted htime ?_
    rw [accept, checkBinding_of_kind hkind hname]
    rfl
  | longKind htime hname =>
    refine judge_of_not_accepted htime ?_
    rw [accept, checkBinding_of_longKind hname]
    rfl
  | serverDiffers htime hkind hserver =>
    refine judge_of_not_accepted htime ?_
    rw [accept, checkBinding, if_neg (not_not_intro hkind), if_pos hserver]
    rfl
  | claimantDiffers htime hkind hserver hclaimant =>
    refine judge_of_not_accepted htime ?_
    rw [accept, checkBinding, if_neg (not_not_intro hkind), if_neg (not_not_intro hserver),
      if_pos hclaimant]
    rfl
  | unverified htime hbound hverify =>
    refine judge_of_not_accepted htime ?_
    rw [accept_of_isBoundTo hbound, hverify]
    rfl
  | undated htime hbound hverify hstamp =>
    refine judge_of_not_accepted htime ?_
    rw [accept_of_isBoundTo hbound, hverify, hstamp]
    rfl
  | unsaved htime hbound hverify hstamp hsave =>
    refine judge_of_accepted htime ?_ hsave
    rw [accept_of_isBoundTo hbound, hverify, hstamp]
    rfl
  | saved htime hbound hverify hstamp hsave =>
    refine judge_of_accepted htime ?_ hsave
    rw [accept_of_isBoundTo hbound, hverify, hstamp]
    rfl

/-! ## Dated challenges -/

/-- Every pending challenge was issued at a second of the clock, and before its expiry. -/
def IsDated (p : Policy) (s : Session) : Prop :=
  ∀ {id : Text} {c : Challenge}, s.issuer.get? id = some c →
    (∃ issued, p.issuer.second issued = .ok c.issuedAt) ∧ c.issuedAt < c.expiresAt

theorem isDated_start : IsDated p start := by
  intro id c h
  cases h

/-- Only a granted request brings a new challenge, and it is dated. -/
theorem IsDated.perform {st : Session × σ} (h : IsDated p st.1) (hs : Consistent p st.1)
    (now : Moment) (call : Call σ) : IsDated p (perform p now call st).2.1 := by
  intro id c hget
  rcases perform_cases hs now call with
    ⟨claimantKey, lifetime, second, -, hgrant, hperform⟩ | ⟨-, hshrinks⟩
  · rw [hperform] at hget
    rcases get?_of_get?_granted second claimantKey lifetime hget with hold | ⟨-, rfl⟩
    · exact h hold
    · obtain ⟨hlifetime, hsecond⟩ := Issuer.Policy.grant_eq_ok hgrant
      exact ⟨⟨now, hsecond⟩, Int.lt_add_of_pos_right second hlifetime⟩
  · exact h (hshrinks.get? hget)

theorem isDated_final (p : Policy) (calls : List (Moment × Call σ)) (records : σ) :
    IsDated p (final p calls (start, records)).1 :=
  ((consistent_start p).final_induction (P := fun st => IsDated p st.1) isDated_start
    (fun _ now call hs h => h.perform hs now call) calls).2

/-- An expiry that has passed lies between two readings of the clock. -/
theorem lateness_of_isNameable (hclock : p.issuer.clock.IsNameable) {issued now : Moment} {u : Int}
    (hissued : p.issuer.second issued = .ok c.issuedAt) (hwindow : c.issuedAt < c.expiresAt)
    (hsecond : p.issuer.second now = .ok u) (hlate : c.expiresAt < u) :
    lateness c u = .refused (.challengeExpired c.id c.expiresAt u) := by
  have hread {m : Moment} {v : Int} (h : p.issuer.second m = .ok v) : Json.isShort v = true := by
    unfold Issuer.Policy.second at h
    cases hclockRead : p.issuer.clock.read m with
    | error fault =>
      rw [hclockRead] at h
      cases h
    | ok w =>
      rw [hclockRead] at h
      cases h
      exact hclock hclockRead
  have hexpiry : Json.isShort c.expiresAt = true :=
    Json.isShort_of_between (hread hissued) (hread hsecond) (Int.le_of_lt hwindow)
      (Int.le_of_lt hlate)
  refine Failure.ofRefusal_of_isShort fun n hn => ?_
  rcases List.mem_cons.1 hn with rfl | hn
  · exact hexpiry
  · rw [List.mem_singleton.1 hn]
    exact hread hsecond

/-! ## Every answer -/

/-- What an answer does to a session when it takes a challenge: that challenge is no longer pending
and remembered as consumed; the others stay as they are. -/
structure Takes (id : Text) (s s' : Session) : Prop where
  get? : ∀ other, s'.issuer.get? other = if other = id then none else s.issuer.get? other
  isConsumed : ∀ other,
    s'.issuer.isConsumed other = (decide (other = id) || s.issuer.isConsumed other)
  state? : ∀ other, other ≠ id → s'.state? other = s.state? other

/-- An answer after the expiry is told so. -/
theorem submit_of_late {s : Session} (hdated : IsDated p s) (hclock : p.issuer.clock.IsNameable)
    {u : Int} (htag : e.challengeId? = some c.id) (hget : s.issuer.get? c.id = some c)
    (hsecond : p.issuer.second now = .ok u) (hlate : c.expiresAt < u) :
    submit p verify store now e (s, t) =
      (.error (.refused (.challengeExpired c.id c.expiresAt u)), s.conclude c .expired, t) := by
  obtain ⟨⟨issued, hissued⟩, hwindow⟩ := hdated hget
  have hjudge : judge (p.issuer.second now) verify store now c e t =
      (.error (lateness c u), t, .expired) := (Settles.late hsecond hlate).judge_eq
  rw [submit_of_pending p verify store now t htag hget, hjudge,
    lateness_of_isNameable hclock hissued hwindow hsecond hlate]

/-- What an answer gives back and leaves, in all cases. -/
structure IsSettled (p : Policy) (verify : Verifier) (store : RecordStore σ) (now : Moment)
    (e : SignedEvent) (st : Session × σ) (result : Except Failure AuthRecord) (st' : Session × σ) :
    Prop where
  /-- Without a tag nothing changes. -/
  untagged : e.challengeId? = none →
    result = .error (.refused (.unknownChallenge none)) ∧ st' = st
  /-- A second answer changes nothing. -/
  consumed : ∀ id, e.challengeId? = some id → st.1.issuer.get? id = none →
    st.1.issuer.isConsumed id = true →
    result = .error (.refused (.challengeConsumed id)) ∧ st' = st
  /-- An answer to what the issuer does not know can only reject the state that is left of it. -/
  unknown : ∀ id, e.challengeId? = some id → st.1.issuer.get? id = none →
    st.1.issuer.isConsumed id = false →
    result = .error (.refused (.unknownChallenge (some id))) ∧ st'.1.issuer = st.1.issuer ∧
      st'.2 = st.2 ∧ ∀ other, st'.1.state? other =
        if other = id ∧ (st.1.state? id).isSome then some .rejected else st.1.state? other
  /-- An answer to a pending challenge takes it, and ends it by one of the rules. -/
  pending : ∀ id c, e.challengeId? = some id → st.1.issuer.get? id = some c →
    c.id = id ∧ Takes id st.1 st'.1 ∧ ∃ ending, st'.1.state? id = some ending ∧
      Settles (p.issuer.second now) verify store now c e st.2 result ending st'.2
  /-- An answer after the expiry is told so. -/
  expired : p.issuer.clock.IsNameable → ∀ id c u, e.challengeId? = some id →
    st.1.issuer.get? id = some c → p.issuer.second now = .ok u → c.expiresAt < u →
    result = .error (.refused (.challengeExpired id c.expiresAt u))

/-- In a deployment an answer after the expiry is told so, in every session that a run can reach. -/
theorem late_answer_told {τ : Type} {d : Service.Deployment τ} {settings : Settings}
    (hpolicy : d.sessionPolicy settings = .ok p) (calls : List (Moment × Call σ)) (records : σ)
    (verify : Verifier) (store : RecordStore σ) {u : Int} (htag : e.challengeId? = some c.id)
    (hget : (final p calls (start, records)).1.issuer.get? c.id = some c)
    (hsecond : p.issuer.second now = .ok u) (hlate : c.expiresAt < u) :
    (submit p verify store now e (final p calls (start, records))).1 =
      .error (.refused (.challengeExpired c.id c.expiresAt u)) :=
  congrArg Prod.fst (submit_of_late (isDated_final p calls records)
    (Service.Deployment.isNameable_sessionPolicy hpolicy) htag hget hsecond hlate)

end Session

end Identity

end ComputeDirectory
