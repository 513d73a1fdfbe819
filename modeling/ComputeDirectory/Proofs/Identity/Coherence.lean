import ComputeDirectory.Proofs.Identity.Consistency
import ComputeDirectory.Service.State

/-!
# When states and issuer agree

Seen from outside, a challenge is in one of three situations: it waits for an answer, it has ended
and is remembered, or nothing is known of it. Session and issuer keep separate books and clear them
on separate counters, so they agree on the situation only if the session forgets whenever its issuer
sweeps. Driven through its own calls it does so exactly when its period divides that of the issuer
(`Policy.InStep`); the counter of the session is then the remainder of the other one.

`Coherent` is the invariant, kept by every own call of a session that is in step (`coherent_final`).
When both share one period, as in a deployment, the counters are even equal. All this is about
lifetimes that can be written: a challenge with another one is counted by the issuer alone.
-/

namespace ComputeDirectory.Identity.Session

variable {σ : Type} {p : Policy}

/-! ## Situations -/

/-- How a challenge stands with session and issuer. -/
inductive Situation
  /-- Pending, not consumed, and issued. -/
  | waiting
  /-- Not pending, consumed, and in a terminal state. -/
  | ended
  /-- Neither pending nor consumed, and without a state. -/
  | unknown

/-- Whether a challenge is in a situation. -/
def InSituation (s : Session) (id : Text) : Situation → Prop
  | .waiting => (∃ c, s.issuer.get? id = some c) ∧ s.issuer.isConsumed id = false ∧
      s.state? id = some .issued
  | .ended => s.issuer.get? id = none ∧ s.issuer.isConsumed id = true ∧
      ∃ a, s.state? id = some a ∧ a.isTerminal = true
  | .unknown => s.issuer.get? id = none ∧ s.issuer.isConsumed id = false ∧ s.state? id = none

theorem InSituation.unique {s : Session} {id : Text} {k k' : Situation} (h : s.InSituation id k)
    (h' : s.InSituation id k') : k' = k := by
  cases k <;> cases k' <;> simp_all [InSituation]

/-- Whether a challenge is in one of the situations. -/
def Situated (s : Session) (id : Text) : Prop := ∃ k, s.InSituation id k

namespace Situated

variable {s s' : Session} {id : Text}

theorem congr (h : s.Situated id) (hget : s'.issuer.get? id = s.issuer.get? id)
    (hconsumed : s'.issuer.isConsumed id = s.issuer.isConsumed id)
    (hstate : s'.state? id = s.state? id) : s'.Situated id := by
  obtain ⟨k, hk⟩ := h
  refine ⟨k, ?_⟩
  cases k <;> simpa only [InSituation, hget, hconsumed, hstate] using hk

/-- The issuer may drop what it keeps of a challenge, as long as its state goes with it. -/
theorem drop (h : s.Situated id)
    (hget : s'.issuer.get? id = s.issuer.get? id ∨ s'.issuer.get? id = none)
    (hconsumed : s'.issuer.isConsumed id = s.issuer.isConsumed id ∨
      s'.issuer.isConsumed id = false)
    (hstate : s'.state? id = if s'.tracks id then s.state? id else none) : s'.Situated id := by
  obtain ⟨k, hk⟩ := h
  cases k with
  | waiting =>
    obtain ⟨⟨c, hpending⟩, hmarker, hissued⟩ := hk
    have hmarker' : s'.issuer.isConsumed id = false := by
      rcases hconsumed with h | h
      · rw [h, hmarker]
      · exact h
    rcases hget with h | h
    · rw [hpending] at h
      rw [tracks, h, hissued] at hstate
      exact ⟨.waiting, ⟨c, h⟩, hmarker', hstate⟩
    · rw [tracks, h, hmarker'] at hstate
      exact ⟨.unknown, h, hmarker', hstate⟩
  | ended =>
    obtain ⟨hpending, hmarker, a, ha, hterminal⟩ := hk
    have hpending' : s'.issuer.get? id = none := by
      rcases hget with h | h
      · rw [h, hpending]
      · exact h
    rcases hconsumed with h | h
    · rw [hmarker] at h
      rw [tracks, hpending', h, ha] at hstate
      exact ⟨.ended, hpending', h, a, hstate, hterminal⟩
    · rw [tracks, hpending', h] at hstate
      exact ⟨.unknown, hpending', h, hstate⟩
  | unknown =>
    obtain ⟨hpending, hmarker, hnone⟩ := hk
    refine ⟨.unknown, ?_, ?_, ?_⟩
    · rcases hget with h | h
      · rw [h, hpending]
      · exact h
    · rcases hconsumed with h | h
      · rw [h, hmarker]
      · exact h
    · rw [hstate, hnone, ite_self]

end Situated

/-! ## Keeping pace -/

/-- How many challenges are begun from one forgetting to the next: at least one. -/
def Policy.period (p : Policy) : Int := max p.sweepEvery 1

theorem Policy.period_pos (p : Policy) : 0 < p.period := by
  rw [period]
  omega

/-- Whether the session forgets whenever its issuer sweeps. -/
def Policy.InStep (p : Policy) : Prop := p.period ∣ p.issuer.sweepEvery

instance (p : Policy) : Decidable p.InStep :=
  inferInstanceAs (Decidable (p.period ∣ p.issuer.sweepEvery))

theorem Policy.inStep_of_eq (h : p.sweepEvery = p.issuer.sweepEvery) : p.InStep := by
  have hperiod : p.period = p.issuer.sweepEvery := by
    have hpos := p.issuer.sweepEvery_pos
    rw [period]
    omega
  exact ⟨1, by rw [Int.mul_one, hperiod]⟩

theorem forgetsNext_iff (s : Session) : s.ForgetsNext p ↔ p.period ≤ s.begunSinceSweep + 1 := by
  rw [ForgetsNext, Policy.period]
  omega

/-- The counters of session and issuer. -/
structure Paced (p : Policy) (s : Session) : Prop where
  issued_lt : (s.issuer.issuedSinceSweep : Int) < p.issuer.sweepEvery
  begun_eq : (s.begunSinceSweep : Int) = s.issuer.issuedSinceSweep % p.period

namespace Paced

theorem of_zero {s : Session} (hissued : s.issuer.issuedSinceSweep = 0)
    (hbegun : s.begunSinceSweep = 0) : Paced p s where
  issued_lt := by
    have hpos := p.issuer.sweepEvery_pos
    rw [hissued]
    omega
  begun_eq := by
    rw [hissued, hbegun]
    rfl

theorem congr {s s' : Session} (h : Paced p s)
    (hissued : s'.issuer.issuedSinceSweep = s.issuer.issuedSinceSweep)
    (hbegun : s'.begunSinceSweep = s.begunSinceSweep) : Paced p s' where
  issued_lt := by rw [hissued]; exact h.issued_lt
  begun_eq := by rw [hissued, hbegun]; exact h.begun_eq

theorem begun_lt {s : Session} (h : Paced p s) : (s.begunSinceSweep : Int) < p.period := by
  rw [h.begun_eq]
  exact Int.emod_lt_of_pos _ p.period_pos

/-- One more challenge has the same remainder for both counters. -/
theorem succ_emod {s : Session} (h : Paced p s) :
    ((s.issuer.issuedSinceSweep : Int) + 1) % p.period = (s.begunSinceSweep + 1) % p.period := by
  rw [h.begun_eq, Int.emod_add_emod]

/-- When the issuer sweeps with the next challenge, the session forgets with it exactly if the two
are in step. -/
theorem forgetsNext_iff_inStep {s : Session} (h : Paced p s) {lifetime : Int}
    (hdue : s.issuer.SweepsNext p.issuer lifetime) : s.ForgetsNext p ↔ p.InStep := by
  have hfull : (s.issuer.issuedSinceSweep : Int) + 1 = p.issuer.sweepEvery := by
    have hlt := h.issued_lt
    rw [Issuer.sweepsNext_iff hdue.1] at hdue
    omega
  have hbegun_lt := h.begun_lt
  -- the issuer has come to its full count, and the session is at the remainder of it
  rw [forgetsNext_iff, Policy.InStep, Int.dvd_iff_emod_eq_zero, ← hfull, h.succ_emod]
  constructor
  · intro hforgets
    have hlast : (s.begunSinceSweep : Int) + 1 = p.period := by omega
    rw [hlast, Int.emod_self]
  · intro hzero
    refine Int.not_lt.1 fun hlt => ?_
    rw [Int.emod_eq_of_lt (by omega) hlt] at hzero
    omega

section Granted

variable {s : Session} {lifetime : Option Int}

/-- Without a sweep of the issuer the counters keep pace, in step or not. -/
theorem granted_of_not_sweepsNext (h : Paced p s) (hname : p.isNameable lifetime = true)
    (hsweeps : ¬ s.issuer.SweepsNext p.issuer (lifetime.getD p.defaultLifetime)) (second : Int)
    (claimantKey : Text) : Paced p (s.granted p second claimantKey lifetime) := by
  have hissued : (s.granted p second claimantKey lifetime).issuer.issuedSinceSweep =
      s.issuer.issuedSinceSweep + 1 := by
    rw [issuer_granted, registered, Issuer.issuedSinceSweep_register, if_neg hsweeps]
  rw [Issuer.sweepsNext_iff hname, Int.not_le] at hsweeps
  have hbegun_lt := h.begun_lt
  have hrest : ((s.issuer.issuedSinceSweep + 1 : Nat) : Int) % p.period =
      (s.begunSinceSweep + 1) % p.period := h.succ_emod
  refine ⟨by rw [hissued]; omega, ?_⟩
  rw [hissued, begunSinceSweep_granted hname]
  by_cases hforgets : s.ForgetsNext p
  · rw [if_pos hforgets]
    rw [forgetsNext_iff] at hforgets
    have hfull : (s.begunSinceSweep : Int) + 1 = p.period := by omega
    rw [hrest, hfull, Int.emod_self]
    rfl
  · rw [if_neg hforgets]
    rw [forgetsNext_iff] at hforgets
    rw [hrest, Int.emod_eq_of_lt (by omega) (by omega)]
    rfl

theorem granted (h : Paced p s) (hstep : p.InStep) (hname : p.isNameable lifetime = true)
    (second : Int) (claimantKey : Text) : Paced p (s.granted p second claimantKey lifetime) := by
  by_cases hsweeps : s.issuer.SweepsNext p.issuer (lifetime.getD p.defaultLifetime)
  · refine of_zero ?_ ?_
    · rw [issuer_granted, registered, Issuer.issuedSinceSweep_register, if_pos hsweeps]
    · rw [begunSinceSweep_granted hname, if_pos ((h.forgetsNext_iff_inStep hsweeps).2 hstep)]
  · exact h.granted_of_not_sweepsNext hname hsweeps second claimantKey

end Granted

/-- Of the own calls of a session only those that issue or sweep touch a counter. -/
theorem perform {st : Session × σ} (h : Paced p st.1) (hs : Consistent p st.1) (hstep : p.InStep)
    (now : Moment) {call : Call σ} (hown : call.isOwn = true) (hname : call.isNameable p = true) :
    Paced p (Session.perform p now call st).2.1 := by
  obtain ⟨s, t⟩ := st
  cases call with
  | issue claimantKey lifetime =>
    simp only [Session.perform, issue_eq]
    cases p.grant now claimantKey lifetime with
    | error f => exact h
    | ok second => exact h.granted hstep hname second claimantKey
  | submit verify store e =>
    obtain ⟨hissued, hbegun⟩ := hs.counters_submit verify store now e t
    exact h.congr hissued hbegun
  | cancel id =>
    refine h.congr ?_ (begunSinceSweep_cancel id s)
    rw [Session.perform, issuer_cancel]
    rfl
  | sweep =>
    simp only [Session.perform, sweep_eq]
    cases p.issuer.second now with
    | error f => exact h
    | ok second => exact of_zero rfl rfl
  | claim id => cases hown
  | invalidate id => cases hown
  | sweepIssuer second => cases hown

end Paced

/-! ## Coherence -/

/-- What the own calls of a session keep while it is in step with its issuer. -/
structure Coherent (p : Policy) (s : Session) : Prop where
  consistent : Consistent p s
  paced : Paced p s
  situated : ∀ id, s.Situated id

theorem coherent_start (p : Policy) : Coherent p start where
  consistent := consistent_start p
  paced := .of_zero rfl rfl
  situated _ := ⟨.unknown, rfl, rfl, rfl⟩

namespace Coherent

variable {s : Session}

theorem granted (hs : Coherent p s) (htoken : Function.Injective p.issuer.token) (hstep : p.InStep)
    {second : Int} {claimantKey : Text} {lifetime : Option Int}
    (hname : p.isNameable lifetime = true) (hlifetime : 0 < lifetime.getD p.defaultLifetime) :
    Coherent p (s.granted p second claimantKey lifetime) where
  consistent := hs.consistent.granted second claimantKey lifetime
  paced := hs.paced.granted hstep hname second claimantKey
  situated := by
    intro id
    have hstate : (s.granted p second claimantKey lifetime).state? id = _ :=
      (congrArg (state? · id) (granted_of_isNameable hname)).trans
        (state?_track p (s.registered p second claimantKey lifetime) s id)
    have hissuer := issuer_granted p second claimantKey lifetime s
    by_cases hid : id = (s.registered p second claimantKey lifetime).1.id
    · -- the challenge just issued: its identifier is new, so there is no marker for it
      have hget := get?_granted_self p second claimantKey hlifetime s
      rw [← hid, hissuer] at hget
      have hmarker : (s.registered p second claimantKey lifetime).2.isConsumed id = false := by
        rw [Bool.eq_false_iff]
        intro hconsumed
        have hold := Issuer.isConsumed_of_isConsumed_register hconsumed
        exact (hs.consistent.drawn_of_isConsumed hold).ne_token htoken hid
      rw [hget, if_neg (by simp), if_pos hid] at hstate
      rw [← hissuer] at hget hmarker
      exact ⟨.waiting, ⟨_, hget⟩, hmarker, hstate⟩
    · rw [if_neg hid] at hstate
      by_cases hforgets : s.ForgetsNext p
      · refine (hs.situated id).drop ?_ ?_ ?_
        · rw [hissuer]
          exact Issuer.get?_register_or hid
        · rw [hissuer]
          exact Issuer.isConsumed_register_or id
        · rw [hstate, tracks, hissuer]
          cases ((s.registered p second claimantKey lifetime).2.get? id).isSome ||
            (s.registered p second claimantKey lifetime).2.isConsumed id <;> simp [hforgets]
      · -- no forgetting, so no sweep either
        have hsweeps : ¬ s.issuer.SweepsNext p.issuer (lifetime.getD p.defaultLifetime) := fun h =>
          hforgets ((hs.paced.forgetsNext_iff_inStep h).2 hstep)
        refine (hs.situated id).congr ?_ ?_ ?_
        · rw [hissuer, registered, Issuer.get?_register_of_ne _ _ _ _ _ _ hid, if_neg hsweeps]
        · rw [hissuer, registered, Issuer.isConsumed_register, if_neg hsweeps]
        · rw [hstate, if_neg fun h => hforgets h.1]

theorem sweep (hs : Coherent p s) (second : Int) :
    Coherent p { s with issuer := (s.issuer.sweep p.issuer second).2 }.forgetUntracked where
  consistent := hs.consistent.of_shrinks (.sweep p.issuer second s)
  paced := .of_zero rfl rfl
  situated id := (hs.situated id).drop (Issuer.get?_sweep_or p.issuer second s.issuer id)
    (Issuer.isConsumed_sweep_or p.issuer second s.issuer id) (state?_forgetUntracked _ id)

theorem conclude (hs : Coherent p s) {c : Challenge} (hget : s.issuer.get? c.id = some c)
    {ending : AuthState} (hending : ending.isTerminal = true) :
    Coherent p (s.conclude c ending) where
  consistent := hs.consistent.of_shrinks (.conclude hget ending)
  paced := hs.paced.congr rfl rfl
  situated := by
    intro id
    have hpending : (s.conclude c ending).issuer.get? id =
        if id = c.id then none else s.issuer.get? id := Issuer.get?_spend c.id c.expiresAt s.issuer id
    have hmarker : (s.conclude c ending).issuer.isConsumed id =
        (decide (id = c.id) || s.issuer.isConsumed id) :=
      Issuer.isConsumed_spend c.id c.expiresAt s.issuer id
    have hstate := state?_conclude c ending s id
    by_cases hid : id = c.id
    · simp only [hid, if_true, decide_true, Bool.true_or] at hpending hmarker hstate
      rw [hid]
      exact ⟨.ended, hpending, hmarker, ending, hstate, hending⟩
    · simp only [hid, if_false, decide_false, Bool.false_or] at hpending hmarker hstate
      exact (hs.situated id).congr hpending hmarker hstate

theorem submit (hs : Coherent p s) (verify : Verifier) (store : RecordStore σ) (now : Moment)
    (e : SignedEvent) (t : σ) : Coherent p (Session.submit p verify store now e (s, t)).2.1 := by
  cases htag : e.challengeId? with
  | none =>
    rw [submit_of_untagged p verify store now t htag]
    exact hs
  | some id =>
    obtain ⟨k, hk⟩ := hs.situated id
    cases k with
    | waiting =>
      obtain ⟨⟨c, hget⟩, -, -⟩ := hk
      obtain ⟨rfl, -⟩ := hs.consistent.filed hget
      rw [submit_of_pending p verify store now t htag hget]
      exact hs.conclude hget (judge_isTerminal ..)
    | ended =>
      obtain ⟨hget, hconsumed, -⟩ := hk
      rw [submit_of_consumed p verify store now t htag hget hconsumed]
      exact hs
    | unknown =>
      -- a challenge that the issuer does not know has no state that could be rejected
      obtain ⟨hget, hconsumed, hnone⟩ := hk
      have hcontains : s.states.contains id = false := by
        show (s.state? id).isSome = false
        rw [hnone]
        rfl
      rw [submit_of_unknown p verify store now t htag hget hconsumed, hcontains]
      exact hs

theorem cancel (hs : Coherent p s) (id : Text) : Coherent p (s.cancel id) where
  consistent := hs.consistent.of_shrinks (.cancel id s)
  paced := hs.paced.congr (by rw [issuer_cancel]; rfl) (begunSinceSweep_cancel id s)
  situated := by
    intro other
    have hmarker : (s.cancel id).issuer.isConsumed other = s.issuer.isConsumed other := by
      rw [issuer_cancel]
      rfl
    have hpending : (s.cancel id).issuer.get? other =
        if other = id then none else s.issuer.get? other := by
      rw [issuer_cancel, Issuer.get?_invalidate]
    have hstate := state?_cancel id s other
    by_cases hid : other = id
    · subst hid
      rw [if_pos rfl] at hpending
      obtain ⟨k, hk⟩ := hs.situated other
      cases k with
      | waiting =>
        obtain ⟨-, hunmarked, hissued⟩ := hk
        rw [if_pos ⟨rfl, hissued⟩] at hstate
        exact ⟨.unknown, hpending, hmarker.trans hunmarked, hstate⟩
      | ended =>
        obtain ⟨-, hconsumed, a, ha, hterminal⟩ := hk
        have hkept : s.state? other ≠ some .issued := by
          rw [ha]
          rintro ⟨⟩
          cases hterminal
        rw [if_neg fun h => hkept h.2] at hstate
        exact ⟨.ended, hpending, hmarker.trans hconsumed, a, hstate.trans ha, hterminal⟩
      | unknown =>
        obtain ⟨-, hunmarked, hnone⟩ := hk
        rw [hnone, ite_self] at hstate
        exact ⟨.unknown, hpending, hmarker.trans hunmarked, hstate⟩
    · rw [if_neg hid] at hpending
      rw [if_neg fun h => hid h.1] at hstate
      exact (hs.situated other).congr hpending hmarker hstate

end Coherent

/-- A step of the session keeps it coherent with its issuer. -/
theorem Coherent.perform {st : Session × σ} (hs : Coherent p st.1)
    (htoken : Function.Injective p.issuer.token) (hstep : p.InStep) (now : Moment) {call : Call σ}
    (hown : call.isOwn = true) (hname : call.isNameable p = true) :
    Coherent p (perform p now call st).2.1 := by
  obtain ⟨s, t⟩ := st
  cases call with
  | issue claimantKey lifetime =>
    simp only [Session.perform, issue_eq]
    cases hgrant : p.grant now claimantKey lifetime with
    | error f => exact hs
    | ok second => exact hs.granted htoken hstep hname (Issuer.Policy.grant_eq_ok hgrant).1
  | submit verify store e => exact hs.submit verify store now e t
  | cancel id => exact hs.cancel id
  | sweep =>
    simp only [Session.perform, sweep_eq]
    cases p.issuer.second now with
    | error f => exact hs
    | ok second => exact hs.sweep second
  | claim id => cases hown
  | invalidate id => cases hown
  | sweepIssuer second => cases hown

/-- A session in step with its issuer stays coherent over every run of its own calls, as long as the
lifetimes asked for can be written. -/
theorem coherent_final (htoken : Function.Injective p.issuer.token) (hstep : p.InStep)
    {calls : List (Moment × Call σ)}
    (hcalls : ∀ call ∈ calls, call.2.isOwn = true ∧ call.2.isNameable p = true) (records : σ) :
    Coherent p (final p calls (start, records)).1 :=
  final_induction (fun call => call.isOwn = true ∧ call.isNameable p = true)
    (P := fun st => Coherent p st.1) (coherent_start p)
    (fun _ now _ hcall hs => hs.perform htoken hstep now hcall.1 hcall.2) hcalls

end ComputeDirectory.Identity.Session

namespace ComputeDirectory.Service.Deployment

/-- The session of a deployment has the period of its issuer. -/
theorem sweepEvery_sessionPolicy {τ : Type} {d : Deployment τ} {s : Settings}
    {p : Identity.Session.Policy} (h : d.sessionPolicy s = .ok p) :
    p.sweepEvery = p.issuer.sweepEvery := by
  rw [sessionPolicy, Identity.Issuer.Policy.make?] at h
  by_cases hvalid : 1 ≤ s.sweepEvery ∧ 0 ≤ s.consumedRetention
  · rw [dif_pos hvalid] at h
    cases h
    rfl
  · rw [dif_neg hvalid] at h
    cases h

end ComputeDirectory.Service.Deployment
