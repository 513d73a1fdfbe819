import ComputeDirectory.Proofs.Identity.Consistency
import ComputeDirectory.Proofs.Identity.IssuerHistory

/-!
# Replays and unknown identifiers

A claim of a challenge that is not pending is refused as a replay or as unknown. It is a replay
exactly if the challenge was claimed before and no sweep since then was made later than the
retention of its marker, whoever asked for the sweep and at whatever second (`Remembered`). An
identifier that was never issued, was invalidated or swept while pending is unknown, and so is one
whose marker was swept.

The markers of an issuer are told from its history (`get?_consumed_final_iff`): a claim leaves one,
and only a sweep past the retention takes it away. A session calls its issuer at most once with each
of its own calls (`Call.onIssuer?`), so the same holds of an issuer behind a session.
-/

namespace ComputeDirectory.Identity

namespace Issuer

/-- A challenge was claimed, and every sweep since then came while its marker was to be kept. -/
def Remembered (p : Policy) (past : List Step) (id : Text) (c : Challenge) : Prop :=
  ∃ before s after, past = before ++ s :: after ∧ s.Claims id c ∧
    ∀ t ∈ after, ∀ second, t.sweepSecond? p = some second → second ≤ c.expiresAt + p.retention

section

variable {p : Policy} {past : List Step} {t : Step} {id : Text} {c : Challenge}

/-- What is remembered after one more step: what that step claims, and what was remembered before
and is not swept by it. -/
theorem remembered_snoc_iff :
    Remembered p (past ++ [t]) id c ↔
      t.Claims id c ∨ Remembered p past id c ∧
        ∀ second, t.sweepSecond? p = some second → second ≤ c.expiresAt + p.retention := by
  constructor
  · rintro ⟨before, s, after, hpast, hclaims, hkept⟩
    rcases List.eq_nil_or_concat after with rfl | ⟨after, u, rfl⟩
    · obtain ⟨-, hlast⟩ := List.append_inj' hpast rfl
      cases hlast
      exact .inl hclaims
    · rw [List.concat_eq_append] at hpast hkept
      have hsplit : past ++ [t] = (before ++ s :: after) ++ [u] := by simpa using hpast
      obtain ⟨rfl, hlast⟩ := List.append_inj' hsplit rfl
      cases hlast
      exact .inr ⟨⟨before, s, after, rfl, hclaims, fun v hv => hkept v (by simp [hv])⟩,
        hkept t (by simp)⟩
  · rintro (hclaims | ⟨⟨before, s, after, rfl, hclaims, hkept⟩, hlast⟩)
    · exact ⟨past, t, [], rfl, hclaims, by simp⟩
    · refine ⟨before, s, after ++ [t], by simp, hclaims, ?_⟩
      intro u hu
      rcases List.mem_append.1 hu with hu | hu
      · exact hkept u hu
      · rw [List.mem_singleton.1 hu]
        exact hlast

/-! ## Markers -/

/-- The markers after a call: of the challenge that it claims, and those of before that its sweep
leaves. -/
theorem get?_consumed_perform {now : Moment} {call : Call} {s : Issuer} {expiresAt : Int} :
    (perform p now call s).2.consumed.get? id = some expiresAt ↔
      (∃ c, (stepOf p now call s).Claims id c ∧ c.expiresAt = expiresAt) ∨
        (∀ c, ¬ (stepOf p now call s).Claims id c) ∧ s.consumed.get? id = some expiresAt ∧
          ∀ second, (stepOf p now call s).sweepSecond? p = some second →
            second ≤ expiresAt + p.retention := by
  rw [perform_eq, get?_consumed_sweepAt, Option.filter_eq_some_iff]
  by_cases h : ∃ c, (stepOf p now call s).Claims id c
  · obtain ⟨c, hclaims⟩ := h
    obtain ⟨rfl, hget⟩ := claims_stepOf_iff.1 hclaims
    -- a claim does not sweep
    rw [get?_consumed_change_of_claims hclaims]
    constructor
    · rintro ⟨heq, -⟩
      exact .inl ⟨c, hclaims, Option.some.inj heq⟩
    · rintro (⟨d, hd, rfl⟩ | ⟨hnone, -⟩)
      · rw [(claims_stepOf_iff.1 hd).2] at hget
        cases hget
        exact ⟨rfl, rfl⟩
      · exact absurd hclaims (hnone c)
  · have hnone : ∀ c, ¬ (stepOf p now call s).Claims id c := fun c hc => h ⟨c, hc⟩
    rw [get?_consumed_change_of_not_claims hnone]
    have hkept : ((sweepSecond? p now call s).all fun second => !isStale p second expiresAt) =
          true ↔ ∀ second, (stepOf p now call s).sweepSecond? p = some second →
            second ≤ expiresAt + p.retention := by
      rw [Option.all_eq_true]
      exact forall₂_congr fun second _ => not_isStale_iff
    rw [hkept]
    constructor
    · rintro ⟨hget, hsweep⟩
      exact .inr ⟨hnone, hget, hsweep⟩
    · rintro (⟨c, hclaims, -⟩ | ⟨-, hget, hsweep⟩)
      · exact absurd hclaims (hnone c)
      · exact ⟨hget, hsweep⟩

/-- The markers of an issuer are the challenges that are remembered. -/
theorem get?_consumed_final_iff (htoken : Function.Injective p.token)
    (calls : List (Moment × Call)) (id : Text) (expiresAt : Int) :
    (final p calls start).consumed.get? id = some expiresAt ↔
      ∃ c, Remembered p (history p calls start) id c ∧ c.expiresAt = expiresAt := by
  have hboth : Orderly p (final p calls start) ∧ ∀ id expiresAt,
      (final p calls start).consumed.get? id = some expiresAt ↔
        ∃ c, Remembered p (history p calls start) id c ∧ c.expiresAt = expiresAt := by
    refine Run.steps_induction (machine p) (P := fun past s => Orderly p s ∧ ∀ id expiresAt,
      s.consumed.get? id = some expiresAt ↔
        ∃ c, Remembered p past id c ∧ c.expiresAt = expiresAt) ?_ ?_ calls
    · refine ⟨orderly_start p, fun id expiresAt => ⟨fun h => ?_, ?_⟩⟩
      · cases h
      · rintro ⟨c, ⟨before, s, after, hpast, -⟩, -⟩
        simp at hpast
    · rintro past s ⟨now, call⟩ ⟨hs, hpast⟩
      refine ⟨hs.perform htoken now call, fun id expiresAt => ?_⟩
      refine get?_consumed_perform.trans ?_
      simp only [machine, remembered_snoc_iff]
      constructor
      · rintro (⟨c, hclaims, hexpiry⟩ | ⟨-, hget, hsweep⟩)
        · exact ⟨c, .inl hclaims, hexpiry⟩
        · obtain ⟨c, hc, rfl⟩ := (hpast id expiresAt).1 hget
          exact ⟨c, .inr ⟨hc, hsweep⟩, rfl⟩
      · rintro ⟨c, hclaims | ⟨hc, hsweep⟩, rfl⟩
        · exact .inl ⟨c, hclaims, rfl⟩
        · have hget := (hpast id c.expiresAt).2 ⟨c, hc, rfl⟩
          refine .inr ⟨?_, hget, hsweep⟩
          -- what has a marker is not pending, so it cannot be claimed again
          intro d hd
          have hmarker : s.isConsumed id = true := Option.isSome_iff_exists.2 ⟨_, hget⟩
          rw [hs.disjoint (claims_stepOf_iff.1 hd).2] at hmarker
          cases hmarker
  exact hboth.2 id expiresAt

/-- Consumed are the challenges that are remembered. -/
theorem isConsumed_final_iff (htoken : Function.Injective p.token) (calls : List (Moment × Call))
    (id : Text) :
    (final p calls start).isConsumed id = true ↔
      ∃ c, Remembered p (history p calls start) id c := by
  rw [isConsumed, OrderedMap.contains, Option.isSome_iff_exists]
  constructor
  · rintro ⟨expiresAt, hget⟩
    obtain ⟨c, hc, -⟩ := (get?_consumed_final_iff htoken calls id expiresAt).1 hget
    exact ⟨c, hc⟩
  · rintro ⟨c, hc⟩
    exact ⟨c.expiresAt, (get?_consumed_final_iff htoken calls id _).2 ⟨c, hc, rfl⟩⟩

/-! ## How a claim is refused -/

/-- A claim is refused as a replay exactly if the challenge is remembered, else as unknown, and
changes nothing. -/
structure RefusesClaim (p : Policy) (past : List Step) (s : Issuer) (id : Text) : Prop where
  consumed : (claim id s).1 = .error (.challengeConsumed id) ↔ ∃ c, Remembered p past id c
  unknown : (claim id s).1 = .error (.unknownChallenge (some id)) ↔ ¬ ∃ c, Remembered p past id c
  unchanged : (claim id s).2 = s

theorem refusesClaim_of_get?_eq_none {s : Issuer} (hget : s.get? id = none)
    (hmarker : s.isConsumed id = true ↔ ∃ c, Remembered p past id c) :
    RefusesClaim p past s id := by
  have hclaim := claim_of_get?_eq_none hget
  cases hconsumed : s.isConsumed id with
  | true =>
    rw [hconsumed, if_pos rfl] at hclaim
    refine ⟨?_, ?_, by rw [hclaim]⟩
    · simp [hclaim, ← hmarker, hconsumed]
    · simp [hclaim, ← hmarker, hconsumed]
  | false =>
    rw [hconsumed, if_neg (by decide)] at hclaim
    refine ⟨?_, ?_, by rw [hclaim]⟩
    · simp [hclaim, ← hmarker, hconsumed]
    · simp [hclaim, ← hmarker, hconsumed]

end

end Issuer

/-! ## Issuers behind a session -/

namespace Session

variable {σ : Type}

/-- What a call of a session asks of its issuer. An answer claims the challenge that it names. -/
def Call.onIssuer? (p : Policy) : Call σ → Option Issuer.Call
  | .issue claimantKey lifetime =>
    some (.issue p.serverKey claimantKey (lifetime.getD p.defaultLifetime))
  | .submit _ _ e => e.challengeId?.map .claim
  | .cancel id => some (.invalidate id)
  | .sweep => some (.sweep none)
  | .claim id => some (.claim id)
  | .invalidate id => some (.invalidate id)
  | .sweepIssuer second => some (.sweep second)

/-- What the calls of a session ask of its issuer, at the same moments. -/
def issuerCalls (p : Policy) (calls : List (Moment × Call σ)) : List (Moment × Issuer.Call) :=
  calls.filterMap fun call => (call.2.onIssuer? p).map (call.1, ·)

variable {p : Policy}

theorem issuer_perform {st : Session × σ} (hs : Consistent p st.1) (now : Moment)
    (call : Call σ) :
    (perform p now call st).2.1.issuer =
      match call.onIssuer? p with
      | some asked => (Issuer.perform p.issuer now asked st.1.issuer).2
      | none => st.1.issuer := by
  obtain ⟨s, t⟩ := st
  cases call with
  | issue claimantKey lifetime =>
    simp only [perform, issue_eq, Call.onIssuer?, Issuer.perform, Issuer.issue_eq, Policy.grant]
    cases p.issuer.grant now p.serverKey claimantKey (lifetime.getD p.defaultLifetime) with
    | error f => rfl
    | ok second => exact issuer_granted ..
  | submit verify store e =>
    show (Session.submit p verify store now e (s, t)).2.1.issuer = _
    cases htag : e.challengeId? with
    | none =>
      rw [submit_of_untagged p verify store now t htag]
      simp only [Call.onIssuer?, htag]
      rfl
    | some id =>
      simp only [Call.onIssuer?, htag, Option.map_some, Issuer.perform]
      cases hget : s.issuer.get? id with
      | none =>
        have hnot : e.challengeId?.bind s.issuer.get? = none := by rw [htag]; exact hget
        obtain ⟨f, s', hsubmit, hissuer⟩ := submit_of_not_pending p verify store now t hnot
        rw [hsubmit, Issuer.claim_of_get?_eq_none hget]
        exact hissuer
      | some c =>
        obtain ⟨rfl, -⟩ := hs.filed hget
        rw [submit_of_pending p verify store now t htag hget, Issuer.claim_of_get?_eq_some hget]
        rfl
  | cancel id => exact issuer_cancel id s
  | sweep =>
    simp only [perform, sweep_eq, Call.onIssuer?, Issuer.perform, Issuer.sweepNow_eq]
    cases p.issuer.second now <;> rfl
  | claim id => rfl
  | invalidate id => rfl
  | sweepIssuer second =>
    cases second with
    | some second => rfl
    | none => rfl

/-- The issuer behind a session is left as if it had been called directly. -/
theorem issuer_final {st : Session × σ} (hs : Consistent p st.1) (calls : List (Moment × Call σ)) :
    (final p calls st).1.issuer = Issuer.final p.issuer (issuerCalls p calls) st.1.issuer := by
  induction calls generalizing st with
  | nil => rfl
  | cons first calls ih =>
    obtain ⟨now, call⟩ := first
    have hrest := ih (hs.perform now call)
    rw [issuer_perform hs now call] at hrest
    rw [final, hrest]
    cases hasked : call.onIssuer? p with
    | none =>
      have hcalls : issuerCalls p ((now, call) :: calls) = issuerCalls p calls := by
        simp [issuerCalls, hasked]
      rw [hcalls]
    | some asked =>
      have hcalls : issuerCalls p ((now, call) :: calls) =
          (now, asked) :: issuerCalls p calls := by
        simp [issuerCalls, hasked]
      rw [hcalls]
      rfl

end Session

/-! ## Main statement -/

namespace Issuer

/-- A claim of a challenge that is not pending is refused as a replay for as long as the marker of
an earlier claim is to be kept, and as unknown otherwise; it changes nothing. This holds after any
run of an issuer, and of the issuer behind a session after any run of that session. -/
theorem replay_told_from_unknown (p : Policy) (htoken : Function.Injective p.token) (id : Text) :
    (∀ calls : List (Moment × Call), (final p calls start).get? id = none →
      RefusesClaim p (history p calls start) (final p calls start) id) ∧
    ∀ {σ : Type} (q : Session.Policy), q.issuer = p →
      ∀ (calls : List (Moment × Session.Call σ)) (records : σ),
        (Session.final q calls (Session.start, records)).1.issuer.get? id = none →
        RefusesClaim p (history p (Session.issuerCalls q calls) start)
          (Session.final q calls (Session.start, records)).1.issuer id := by
  have hissuer : ∀ calls : List (Moment × Call), (final p calls start).get? id = none →
      RefusesClaim p (history p calls start) (final p calls start) id :=
    fun calls hget => refusesClaim_of_get?_eq_none hget (isConsumed_final_iff htoken calls id)
  refine ⟨hissuer, ?_⟩
  rintro σ q rfl calls records hget
  rw [Session.issuer_final (Session.consistent_start q) calls] at hget ⊢
  exact hissuer (Session.issuerCalls q calls) hget

/-- A challenge that expires at second 60 and is claimed. A sweep at the last second of its
retention leaves the marker, and a sweep at the next second takes it. -/
theorem replay_told_from_unknown_sample :
    let q := Session.samplePolicy 256 256 3600
    let id := Session.sampleToken 0
    let calls : List (Moment × Call) := [(0, .issue Session.sampleKey Session.sampleKey 60),
      (1000000, .claim id), (2000000, .sweep (some 3660))]
    let later := calls ++ [(2000000, .sweep (some 3661))]
    let begun := [(0, Session.sampleIssue), (1000000, Session.sampleSubmit 0),
      (3660000000, .sweep)]
    let s := (Session.final q begun (Session.start, .empty)).1.issuer
    (RefusesClaim q.issuer (history q.issuer calls start) (final q.issuer calls start) id ∧
        (claim id (final q.issuer calls start)).1 = .error (.challengeConsumed id)) ∧
      (RefusesClaim q.issuer (history q.issuer later start) (final q.issuer later start) id ∧
        (claim id (final q.issuer later start)).1 = .error (.unknownChallenge (some id))) ∧
      RefusesClaim q.issuer (history q.issuer (Session.issuerCalls q begun) start) s id ∧
        (claim id s).1 = .error (.challengeConsumed id) := by
  intro q id calls later begun s
  obtain ⟨hissuer, hsession⟩ :=
    replay_told_from_unknown q.issuer Session.sampleToken_injective id
  exact ⟨⟨hissuer calls rfl, rfl⟩, ⟨hissuer later rfl, rfl⟩, hsession q rfl begun .empty rfl, rfl⟩

end Issuer

end ComputeDirectory.Identity
