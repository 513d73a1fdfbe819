import ComputeDirectory.Proofs.Identity.Soundness

/-!
# What a state tells about the future

Session and issuer keep their books apart. Periods that differ, and calls of the issuer past the
session, let them drift: a challenge may count as issued long after it was claimed or swept, or as
rejected when it was only forgotten. One direction survives all of that. A challenge that was begun
counts as issued while it is pending (`issued_of_begins`), so with any other state, or none, it can
no longer be answered, and with identifiers that never repeat this is so for good
(`closed_state_final`).

Only a challenge that was never begun can be pending without a state: one that was registered with a
lifetime that cannot be written.

A state is written when a challenge is begun and when it ends, and `verifying` only in between: no
call leaves it behind (`state?_final_ne_verifying`).
-/

namespace ComputeDirectory.Identity.Session

variable {σ : Type} {p : Policy}

/-- Whether a reported state says that nothing more can come of a challenge. -/
def Closed (state : Option AuthState) : Prop := ∀ a, state = some a → a.isTerminal = true

/-- An answer that names a challenge. -/
def Step.Answers (s : Step σ) (id : Text) : Prop :=
  ∃ verify store e, s.call = .submit verify store e ∧ e.challengeId? = some id

/-! ## What no call leaves behind -/

/-- Between calls no challenge is being verified. -/
theorem state?_final_ne_verifying (p : Policy) (calls : List (Moment × Call σ)) (records : σ)
    (id : Text) : (final p calls (start, records)).1.state? id ≠ some .verifying := by
  have hstart : (start, records).1.state? id ≠ some .verifying := by rintro ⟨⟩
  refine ((consistent_start p).final_induction (P := fun st => st.1.state? id ≠ some .verifying)
    hstart (fun st now call hs hbefore => ?_) calls).2
  intro hverifying
  cases hs.fate_perform now call id with
  | kept h => exact hbefore (h.symm.trans hverifying)
  | forgotten h => cases h.symm.trans hverifying
  | begun hnew h => cases h.symm.trans hverifying
  | ended hpending hterminal h =>
    obtain rfl := Option.some.inj (h.symm.trans hverifying)
    cases hterminal
  | rejected hgone hunmarked hknown h => cases h.symm.trans hverifying

/-! ## What can still be answered -/

/-- A challenge counts as issued as long as it is pending. -/
def IssuedWhilePending (s : Session) (id : Text) : Prop :=
  ∀ c, s.issuer.get? id = some c → s.state? id = some .issued

/-- A challenge whose state is closed is not pending. -/
theorem IssuedWhilePending.get?_eq_none {s : Session} {id : Text} (h : IssuedWhilePending s id)
    (hclosed : Closed (s.state? id)) : s.issuer.get? id = none := by
  cases hget : s.issuer.get? id with
  | none => rfl
  | some c => cases hclosed _ (h c hget)

/-- No call takes its state from a pending challenge that was drawn before. -/
theorem IssuedWhilePending.perform {st : Session × σ} {id : Text} (h : IssuedWhilePending st.1 id)
    (htoken : Function.Injective p.issuer.token) (hid : Drawn p st.1 id) (hs : Consistent p st.1)
    (now : Moment) (call : Call σ) : IssuedWhilePending (perform p now call st).2.1 id := by
  intro c hget
  rcases perform_cases hs now call with
    ⟨claimantKey, lifetime, second, -, -, hperform⟩ | ⟨-, hshrinks⟩
  · rw [hperform] at hget ⊢
    rw [state?_granted_of_get? second claimantKey lifetime hget,
      if_neg fun hnew => hid.ne_token htoken hnew.2]
    rcases get?_of_get?_granted second claimantKey lifetime hget with hold | ⟨hnew, -⟩
    · exact h c hold
    · exact absurd hnew (hid.ne_token htoken)
  · rw [hshrinks.kept hget]
    exact h c (hshrinks.get? hget)

/-- A challenge that was begun has been drawn, and counts as issued while it is pending. -/
theorem issued_of_begins (htoken : Function.Injective p.issuer.token)
    (calls : List (Moment × Call σ)) (records : σ) {b : Step σ}
    (hb : b ∈ history p calls (start, records)) {c : Challenge} (hbegins : b.Begins c) :
    Drawn p (final p calls (start, records)).1 c.id ∧
      IssuedWhilePending (final p calls (start, records)).1 c.id := by
  obtain ⟨before, now, call, after, rfl, rfl⟩ := mem_history hb
  have hbefore := consistent_final p before records
  rw [final_append]
  refine ((hbefore.perform now call).final_induction (p := p)
    (P := fun st => Drawn p st.1 c.id ∧ IssuedWhilePending st.1 c.id) ?_ ?_ after).2
  · obtain ⟨claimantKey, lifetime, second, -, -, hname, rfl, hafter⟩ :=
      granted_of_begins hbefore hbegins
    rw [hafter]
    refine ⟨drawn_granted second claimantKey lifetime, fun d hget => ?_⟩
    rw [state?_granted_of_get? second claimantKey lifetime hget]
    exact if_pos ⟨hname, rfl⟩
  · intro st now call hs hst
    exact ⟨hst.1.perform hs now call, hst.2.perform htoken hst.1 hs now call⟩

/-- However a run goes on, an answer to a challenge that is gone is refused. -/
theorem Gone.answer_refused {st : Session × σ} {id : Text}
    (htoken : Function.Injective p.issuer.token) (hid : Gone p st.1 id) (hs : Consistent p st.1)
    {calls : List (Moment × Call σ)} {t : Step σ} (ht : t ∈ history p calls st)
    (hanswers : t.Answers id) : ∃ f, t.reply = .answered (.error f) := by
  obtain ⟨before, now, call, after, -, rfl⟩ := mem_history ht
  obtain ⟨verify, store, e, hcall, htag⟩ := hanswers
  obtain rfl : call = .submit verify store e := hcall
  have hgone := (hid.final htoken hs before).get?_eq_none
  have hnamed : e.challengeId?.bind (Session.final p before st).1.issuer.get? = none := by
    rw [htag]
    exact hgone
  obtain ⟨f, s', hsubmit, -⟩ :=
    submit_of_not_pending p verify store now (Session.final p before st).2 hnamed
  refine ⟨f, ?_⟩
  show Reply.answered (submit p verify store now e (Session.final p before st)).1 = _
  rw [hsubmit]

/-- What the states of a session tell is never wrong about what can still happen: a pending challenge
that was begun is issued, and every pending one is where all lifetimes can be written; none is being
verified between calls; and once a challenge that was begun has ended or has no state, no later
answer to it gets a record. -/
theorem closed_state_final (p : Policy) (htoken : Function.Injective p.issuer.token)
    (calls : List (Moment × Call σ)) (records : σ) :
    let reached := final p calls (start, records)
    (∀ b ∈ history p calls (start, records), ∀ c, b.Begins c →
        reached.1.issuer.get? c.id ≠ none → reached.1.state? c.id = some .issued) ∧
      ((∀ call ∈ calls, call.2.isNameable p = true) → ∀ id c,
        reached.1.issuer.get? id = some c → reached.1.state? id = some .issued) ∧
      (∀ id, reached.1.state? id ≠ some .verifying) ∧
      ∀ b ∈ history p calls (start, records), ∀ c, b.Begins c → Closed (reached.1.state? c.id) →
        ∀ later, ∀ t ∈ history p later reached, t.Answers c.id →
          ∃ f, t.reply = .answered (.error f) := by
  intro reached
  refine ⟨?_, fun hname => allIssued_final hname records,
    state?_final_ne_verifying p calls records, ?_⟩
  · intro b hb c hbegins hpending
    obtain ⟨d, hget⟩ := Option.ne_none_iff_exists'.1 hpending
    exact (issued_of_begins htoken calls records hb hbegins).2 d hget
  · intro b hb c hbegins hclosed later t ht hanswers
    obtain ⟨hdrawn, hissued⟩ := issued_of_begins htoken calls records hb hbegins
    have hgone : Gone p reached.1 c.id := ⟨hdrawn, hissued.get?_eq_none hclosed⟩
    exact hgone.answer_refused htoken (consistent_final p calls records) ht hanswers

/-- A challenge is invalidated past the session and still counts as issued; an answer finds it
unknown, which closes it, and a second answer is refused as well. Another challenge waits. -/
theorem closed_state_final_sample :
    let p := samplePolicy 256 7 0
    let calls := [(0, sampleIssue), (0, .invalidate (sampleToken 0)), (0, sampleSubmit 0),
      (0, sampleIssue)]
    let reached := final p calls (start, .empty)
    reached.1.state? (sampleToken 0) = some .rejected ∧
      reached.1.state? (sampleToken 1) = some .issued ∧
      ∀ t ∈ history p [(0, sampleSubmit 0)] reached, ∃ f, t.reply = .answered (.error f) := by
  intro p calls reached
  obtain ⟨-, hissued, -, hclosed⟩ := closed_state_final p sampleToken_injective calls .empty
  have hrejected : reached.1.state? (sampleToken 0) = some .rejected := rfl
  have hname : ∀ call ∈ calls, call.2.isNameable p = true := by decide
  refine ⟨hrejected, hissued hname _ _ rfl, fun t ht => ?_⟩
  refine hclosed _ (List.mem_cons_self ..) _ ⟨⟨_, _, rfl⟩, rfl⟩ ?_ [(0, sampleSubmit 0)] t ht ?_
  · intro a ha
    rw [show reached.1.state? (sampleToken 0) = some a from ha] at hrejected
    cases hrejected
    rfl
  · rw [List.mem_singleton.1 ht]
    exact ⟨_, _, _, rfl, rfl⟩

end ComputeDirectory.Identity.Session
