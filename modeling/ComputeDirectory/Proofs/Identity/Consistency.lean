import ComputeDirectory.Proofs.Identity.History

/-!
# What every run keeps

`Consistent` relates the pending challenges, the markers and the states of a session: all of them
belong to identifiers that were drawn, a pending challenge is filed under its own identifier and
bound to the key of the server, and with identifiers that never repeat it has not ended. It holds
after any run of any calls (`consistent_final`), whatever the clock shows.

Only a request that is granted brings anything new; `Shrinks` says what all other calls have in
common, and `perform_cases` that there is no third kind of call. So with identifiers that never
repeat, a challenge that is no longer pending never comes back (`Gone.final`). What a call can make
of the state of one challenge is its `Fate`.

A challenge whose lifetime cannot be written is registered but not handed out, and the session has no
state for it. Where no such lifetime is asked for, every pending challenge is issued
(`allIssued_final`).
-/

namespace ComputeDirectory.Identity.Session

variable {σ : Type} {p : Policy}

/-- Whether an identifier was drawn. -/
def Drawn (p : Policy) (s : Session) (id : Text) : Prop :=
  ∃ k < s.issuer.drawn, p.issuer.token k = id

/-- What holds of a session at any time. -/
structure Consistent (p : Policy) (s : Session) : Prop where
  filed : ∀ {id c}, s.issuer.get? id = some c → c.id = id ∧ c.serverKey = p.serverKey
  drawn_of_get? : ∀ {id c}, s.issuer.get? id = some c → Drawn p s id
  drawn_of_isConsumed : ∀ {id}, s.issuer.isConsumed id = true → Drawn p s id
  drawn_of_state? : ∀ {id a}, s.state? id = some a → Drawn p s id
  open_of_get? : Function.Injective p.issuer.token → ∀ {id c}, s.issuer.get? id = some c →
    s.state? id = none ∨ s.state? id = some .issued

theorem consistent_start (p : Policy) : Consistent p start where
  filed h := by cases h
  drawn_of_get? h := by cases h
  drawn_of_isConsumed h := by cases h
  drawn_of_state? h := by cases h
  open_of_get? _ _ _ h := by cases h

/-- What all calls do that register no challenge: nothing is drawn or becomes pending, markers come
from pending challenges, states from states or pending challenges, and a challenge still pending
keeps its state. -/
structure Shrinks (s s' : Session) : Prop where
  drawn : s'.issuer.drawn = s.issuer.drawn
  get? : ∀ {id c}, s'.issuer.get? id = some c → s.issuer.get? id = some c
  isConsumed : ∀ {id}, s'.issuer.isConsumed id = true →
    s.issuer.isConsumed id = true ∨ ∃ c, s.issuer.get? id = some c
  state? : ∀ {id a}, s'.state? id = some a →
    (∃ b, s.state? id = some b) ∨ ∃ c, s.issuer.get? id = some c
  kept : ∀ {id c}, s'.issuer.get? id = some c → s'.state? id = s.state? id

namespace Shrinks

theorem refl (s : Session) : Shrinks s s where
  drawn := rfl
  get? h := h
  isConsumed h := .inl h
  state? h := .inl ⟨_, h⟩
  kept _ := rfl

theorem cancel (id : Text) (s : Session) : Shrinks s (s.cancel id) where
  drawn := by rw [issuer_cancel]; rfl
  get? := by
    intro other c h
    rw [issuer_cancel] at h
    exact (Issuer.get?_of_get?_invalidate h).2
  isConsumed := by
    intro other h
    rw [issuer_cancel] at h
    exact .inl h
  state? := by
    intro other a h
    rw [state?_cancel] at h
    split at h
    · cases h
    · exact .inl ⟨a, h⟩
  kept := by
    intro other c h
    rw [issuer_cancel] at h
    obtain ⟨hother, -⟩ := Issuer.get?_of_get?_invalidate h
    rw [state?_cancel, if_neg fun hboth => hother hboth.1]

/-- Calls of the issuer past the session leave the states alone. -/
theorem ofIssuer {s : Session} {issuer : Issuer} (hdrawn : issuer.drawn = s.issuer.drawn)
    (hget : ∀ {id c}, issuer.get? id = some c → s.issuer.get? id = some c)
    (hconsumed : ∀ {id}, issuer.isConsumed id = true →
      s.issuer.isConsumed id = true ∨ ∃ c, s.issuer.get? id = some c) :
    Shrinks s { s with issuer } where
  drawn := hdrawn
  get? := hget
  isConsumed := hconsumed
  state? h := .inl ⟨_, h⟩
  kept _ := rfl

theorem sweepIssuer (q : Issuer.Policy) (second : Int) (s : Session) :
    Shrinks s { s with issuer := (s.issuer.sweep q second).2 } :=
  ofIssuer rfl Issuer.get?_of_get?_sweep fun h => .inl (Issuer.isConsumed_of_isConsumed_sweep h)

theorem forgetUntracked (s : Session) : Shrinks s s.forgetUntracked where
  drawn := rfl
  get? h := h
  isConsumed h := .inl h
  state? := by
    intro id a h
    rw [state?_forgetUntracked] at h
    split at h
    · exact .inl ⟨a, h⟩
    · cases h
  kept := by
    intro id c h
    have hknown : s.tracks id = true := by
      have hget : s.issuer.get? id = some c := h
      rw [tracks, hget]
      rfl
    rw [state?_forgetUntracked, if_pos hknown]

theorem trans {s s' s'' : Session} (h : Shrinks s s') (h' : Shrinks s' s'') : Shrinks s s'' where
  drawn := h'.drawn.trans h.drawn
  get? hget := h.get? (h'.get? hget)
  isConsumed hconsumed := by
    rcases h'.isConsumed hconsumed with hmarker | ⟨c, hget⟩
    · exact h.isConsumed hmarker
    · exact .inr ⟨c, h.get? hget⟩
  state? hstate := by
    rcases h'.state? hstate with ⟨b, hb⟩ | ⟨c, hget⟩
    · exact h.state? hb
    · exact .inr ⟨c, h.get? hget⟩
  kept hget := (h'.kept hget).trans (h.kept (h'.get? hget))

theorem sweep (q : Issuer.Policy) (second : Int) (s : Session) :
    Shrinks s { s with issuer := (s.issuer.sweep q second).2 }.forgetUntracked :=
  (sweepIssuer q second s).trans (forgetUntracked _)

theorem spend {s : Session} {c : Challenge} (hget : s.issuer.get? c.id = some c) :
    Shrinks s { s with issuer := s.issuer.spend c.id c.expiresAt } := by
  refine ofIssuer rfl ?_ ?_
  · intro id d h
    exact (Issuer.get?_of_get?_spend h).2
  · intro id h
    rw [Issuer.isConsumed_spend, Bool.or_eq_true, decide_eq_true_eq] at h
    rcases h with rfl | h
    · exact .inr ⟨c, hget⟩
    · exact .inl h

theorem setState {s : Session} {id : Text} {a : AuthState} (hpending : s.issuer.get? id = none)
    (hstate : ∃ b, s.state? id = some b) : Shrinks s (s.setState id a) where
  drawn := rfl
  get? h := h
  isConsumed h := .inl h
  state? := by
    intro other b h
    rw [state?_setState] at h
    split at h
    · next hother => rw [hother]; exact .inl hstate
    · exact .inl ⟨b, h⟩
  kept := by
    intro other c h
    have hother : other ≠ id := by
      rintro rfl
      have hget : s.issuer.get? other = some c := h
      rw [hpending] at hget
      cases hget
    rw [state?_setState, if_neg hother]

theorem conclude {s : Session} {c : Challenge} (hget : s.issuer.get? c.id = some c)
    (ending : AuthState) : Shrinks s (s.conclude c ending) where
  drawn := rfl
  get? h := (spend hget).get? h
  isConsumed h := (spend hget).isConsumed h
  state? := by
    intro id a h
    rw [state?_conclude] at h
    split at h
    · next hid => rw [hid]; exact .inr ⟨c, hget⟩
    · exact .inl ⟨a, h⟩
  kept := by
    intro id d h
    have hid : id ≠ c.id := (Issuer.get?_of_get?_spend h).1
    rw [state?_conclude, if_neg hid]

theorem submit {s : Session} (hs : Consistent p s) (verify : Verifier) (store : RecordStore σ)
    (now : Moment) (e : SignedEvent) (t : σ) :
    Shrinks s (Session.submit p verify store now e (s, t)).2.1 := by
  cases htag : e.challengeId? with
  | none =>
    rw [submit_of_untagged p verify store now t htag]
    exact refl s
  | some id =>
    cases hget : s.issuer.get? id with
    | some c =>
      obtain ⟨rfl, -⟩ := hs.filed hget
      rw [submit_of_pending p verify store now t htag hget]
      exact conclude hget _
    | none =>
      cases hconsumed : s.issuer.isConsumed id with
      | true =>
        rw [submit_of_consumed p verify store now t htag hget hconsumed]
        exact refl s
      | false =>
        rw [submit_of_unknown p verify store now t htag hget hconsumed]
        by_cases hstate : s.states.contains id = true
        · simp only [hstate, if_true]
          exact setState hget (Option.isSome_iff_exists.1 hstate)
        · simp only [hstate]
          exact refl s

theorem claim {s : Session} (hs : Consistent p s) (id : Text) :
    Shrinks s { s with issuer := (Issuer.claim id s.issuer).2 } := by
  cases hget : s.issuer.get? id with
  | none =>
    rw [Issuer.claim_of_get?_eq_none hget]
    exact refl s
  | some c =>
    obtain ⟨rfl, -⟩ := hs.filed hget
    rw [Issuer.claim_of_get?_eq_some hget]
    exact spend hget

theorem invalidate (id : Text) (s : Session) :
    Shrinks s { s with issuer := s.issuer.invalidate id } := by
  refine ofIssuer rfl ?_ fun h => .inl h
  intro other c h
  exact (Issuer.get?_of_get?_invalidate h).2

end Shrinks

/-- A call registers a challenge, or it shrinks. -/
theorem perform_cases {st : Session × σ} (hs : Consistent p st.1) (now : Moment) (call : Call σ) :
    (∃ claimantKey lifetime second, call = .issue claimantKey lifetime ∧
      p.grant now claimantKey lifetime = .ok second ∧
      perform p now call st = (.issued (st.1.handedOut p second claimantKey lifetime),
        st.1.granted p second claimantKey lifetime, st.2)) ∨
    ((perform p now call st).1.begun? = none ∧ Shrinks st.1 (perform p now call st).2.1) := by
  obtain ⟨s, t⟩ := st
  cases call with
  | issue claimantKey lifetime =>
    cases hgrant : p.grant now claimantKey lifetime with
    | error f =>
      right
      simp only [perform, issue_eq, hgrant]
      exact ⟨rfl, .refl s⟩
    | ok second =>
      left
      refine ⟨claimantKey, lifetime, second, rfl, hgrant, ?_⟩
      simp only [perform, issue_eq, hgrant]
  | submit verify store e =>
    exact .inr ⟨rfl, .submit hs verify store now e t⟩
  | cancel id => exact .inr ⟨rfl, .cancel id s⟩
  | sweep =>
    right
    simp only [perform, sweep_eq]
    cases p.issuer.second now with
    | error f => exact ⟨rfl, .refl s⟩
    | ok second => exact ⟨rfl, .sweep p.issuer second s⟩
  | claim id => exact .inr ⟨rfl, .claim hs id⟩
  | invalidate id => exact .inr ⟨rfl, .invalidate id s⟩
  | sweepIssuer second =>
    right
    cases second with
    | some second => exact ⟨rfl, .sweepIssuer p.issuer second s⟩
    | none =>
      simp only [perform, Issuer.sweepNow_eq]
      cases p.issuer.second now with
      | error f => exact ⟨rfl, .refl s⟩
      | ok second => exact ⟨rfl, .sweepIssuer p.issuer second s⟩

/-! ## Consistency is kept -/

theorem Drawn.of_shrinks {s s' : Session} {id : Text} (hid : Drawn p s id) (h : Shrinks s s') :
    Drawn p s' id := by
  unfold Drawn at hid ⊢
  rwa [h.drawn]

theorem Consistent.of_shrinks {s s' : Session} (hs : Consistent p s) (h : Shrinks s s') :
    Consistent p s' where
  filed hget := hs.filed (h.get? hget)
  drawn_of_get? hget := (hs.drawn_of_get? (h.get? hget)).of_shrinks h
  drawn_of_isConsumed hconsumed := by
    rcases h.isConsumed hconsumed with hmarker | ⟨c, hget⟩
    · exact (hs.drawn_of_isConsumed hmarker).of_shrinks h
    · exact (hs.drawn_of_get? hget).of_shrinks h
  drawn_of_state? hstate := by
    rcases h.state? hstate with ⟨b, hb⟩ | ⟨c, hget⟩
    · exact (hs.drawn_of_state? hb).of_shrinks h
    · exact (hs.drawn_of_get? hget).of_shrinks h
  open_of_get? htoken id c hget := by
    rw [h.kept hget]
    exact hs.open_of_get? htoken (h.get? hget)

theorem Drawn.ne_token {s : Session} {id : Text} (htoken : Function.Injective p.issuer.token)
    (hid : Drawn p s id) : id ≠ p.issuer.token s.issuer.drawn := by
  obtain ⟨k, hk, rfl⟩ := hid
  intro heq
  exact absurd (htoken heq) (by omega)

section Granted

variable {s : Session} (second : Int) (claimantKey : Text) (lifetime : Option Int)

theorem drawn_granted :
    Drawn p (s.granted p second claimantKey lifetime) (p.issuer.token s.issuer.drawn) :=
  ⟨s.issuer.drawn, by simp [registered], rfl⟩

theorem Drawn.granted {id : Text} (hid : Drawn p s id) :
    Drawn p (s.granted p second claimantKey lifetime) id := by
  obtain ⟨k, hk, hid⟩ := hid
  exact ⟨k, by simp only [issuer_granted, registered, Issuer.drawn_register]; omega, hid⟩

/-- What is pending once a request is granted was pending before, or was just registered. -/
theorem get?_of_get?_granted {id : Text} {c : Challenge}
    (h : (s.granted p second claimantKey lifetime).issuer.get? id = some c) :
    s.issuer.get? id = some c ∨ (id = p.issuer.token s.issuer.drawn ∧
      c = (s.registered p second claimantKey lifetime).1) := by
  rw [issuer_granted] at h
  exact Issuer.get?_of_get?_register h

/-- A challenge with a state had one before, or was just registered. -/
theorem state?_of_state?_granted {id : Text} {a : AuthState}
    (h : (s.granted p second claimantKey lifetime).state? id = some a) :
    s.state? id = some a ∨ id = p.issuer.token s.issuer.drawn := by
  rcases state?_granted_or p second claimantKey lifetime s id with hsame | hnone | ⟨hid, -⟩
  · exact .inl (hsame.symm.trans h)
  · rw [hnone] at h
    cases h
  · exact .inr hid

/-- A pending challenge keeps its state, and one that is handed out gets the first one. -/
theorem state?_granted_of_get? {id : Text} {c : Challenge}
    (h : (s.granted p second claimantKey lifetime).issuer.get? id = some c) :
    (s.granted p second claimantKey lifetime).state? id =
      if p.isNameable lifetime = true ∧ id = p.issuer.token s.issuer.drawn then some .issued
      else s.state? id := by
  refine state?_granted_of_tracks ?_
  rw [tracks, h]
  rfl

theorem Consistent.granted (hs : Consistent p s) :
    Consistent p (s.granted p second claimantKey lifetime) where
  filed hget := by
    rcases get?_of_get?_granted second claimantKey lifetime hget with hold | ⟨rfl, rfl⟩
    · exact hs.filed hold
    · exact ⟨rfl, rfl⟩
  drawn_of_get? hget := by
    rcases get?_of_get?_granted second claimantKey lifetime hget with hold | ⟨rfl, -⟩
    · exact (hs.drawn_of_get? hold).granted second claimantKey lifetime
    · exact drawn_granted second claimantKey lifetime
  drawn_of_isConsumed hconsumed := by
    rw [issuer_granted] at hconsumed
    exact (hs.drawn_of_isConsumed (Issuer.isConsumed_of_isConsumed_register hconsumed)).granted
      second claimantKey lifetime
  drawn_of_state? hstate := by
    rcases state?_of_state?_granted second claimantKey lifetime hstate with hold | rfl
    · exact (hs.drawn_of_state? hold).granted second claimantKey lifetime
    · exact drawn_granted second claimantKey lifetime
  open_of_get? htoken id c hget := by
    rw [state?_granted_of_get? second claimantKey lifetime hget]
    split
    · exact .inr rfl
    · rcases get?_of_get?_granted second claimantKey lifetime hget with hold | ⟨rfl, -⟩
      · exact hs.open_of_get? htoken hold
      · -- the identifier is new, so nothing has a state under it yet
        cases hstate : s.state? (p.issuer.token s.issuer.drawn) with
        | none => exact .inl rfl
        | some a => exact absurd rfl ((hs.drawn_of_state? hstate).ne_token htoken)

end Granted

theorem Consistent.perform {st : Session × σ} (hs : Consistent p st.1) (now : Moment)
    (call : Call σ) : Consistent p (perform p now call st).2.1 := by
  rcases perform_cases hs now call with ⟨claimantKey, lifetime, second, -, -, hperform⟩ | ⟨-, h⟩
  · rw [hperform]
    exact hs.granted second claimantKey lifetime
  · exact hs.of_shrinks h

/-- What every call keeps in a consistent session, every run keeps. -/
theorem Consistent.final_induction {P : Session × σ → Prop} {st : Session × σ}
    (hs : Consistent p st.1) (hstart : P st)
    (hstep : ∀ st now call, Consistent p st.1 → P st → P (Session.perform p now call st).2)
    (calls : List (Moment × Call σ)) :
    Consistent p (final p calls st).1 ∧ P (final p calls st) :=
  Session.final_induction (fun _ => True) (P := fun st => Consistent p st.1 ∧ P st) ⟨hs, hstart⟩
    (fun st now call _ h => ⟨h.1.perform now call, hstep st now call h.1 h.2⟩)
    fun _ _ => trivial

theorem Consistent.final {st : Session × σ} (hs : Consistent p st.1)
    (calls : List (Moment × Call σ)) : Consistent p (final p calls st).1 :=
  (hs.final_induction (P := fun _ => True) trivial (fun _ _ _ _ _ => trivial) calls).1

/-- Any run leads to a consistent session. -/
theorem consistent_final (p : Policy) (calls : List (Moment × Call σ)) (records : σ) :
    Consistent p (Session.final p calls (start, records)).1 :=
  (consistent_start p).final calls

/-! ## Answers, case by case -/

/-- What an answer leaves of a session: the pending challenge that it names is ended, or at most the
state of a challenge is overwritten that the issuer does not know. -/
theorem Consistent.submit_cases {s : Session} (hs : Consistent p s) (verify : Verifier)
    (store : RecordStore σ) (now : Moment) (e : SignedEvent) (t : σ) :
    (∃ c ending, e.challengeId? = some c.id ∧ s.issuer.get? c.id = some c ∧
      ending.isTerminal = true ∧ (submit p verify store now e (s, t)).2.1 = s.conclude c ending) ∨
    (∃ id a, s.issuer.get? id = none ∧ s.issuer.isConsumed id = false ∧ s.state? id = some a ∧
      (submit p verify store now e (s, t)).2.1 = s.setState id .rejected) ∨
    (submit p verify store now e (s, t)).2.1 = s := by
  cases htag : e.challengeId? with
  | none =>
    rw [submit_of_untagged p verify store now t htag]
    exact .inr (.inr rfl)
  | some id =>
    cases hget : s.issuer.get? id with
    | some c =>
      obtain ⟨rfl, -⟩ := hs.filed hget
      rw [submit_of_pending p verify store now t htag hget]
      exact .inl ⟨c, _, rfl, hget, judge_isTerminal .., rfl⟩
    | none =>
      cases hconsumed : s.issuer.isConsumed id with
      | true =>
        rw [submit_of_consumed p verify store now t htag hget hconsumed]
        exact .inr (.inr rfl)
      | false =>
        rw [submit_of_unknown p verify store now t htag hget hconsumed]
        by_cases hstate : s.states.contains id = true
        · obtain ⟨a, ha⟩ := Option.isSome_iff_exists.1 hstate
          simp only [hstate, if_true]
          exact .inr (.inl ⟨id, a, hget, hconsumed, ha, rfl⟩)
        · simp only [hstate]
          exact .inr (.inr rfl)

/-- An answer leaves the counters alone. -/
theorem Consistent.counters_submit {s : Session} (hs : Consistent p s) (verify : Verifier)
    (store : RecordStore σ) (now : Moment) (e : SignedEvent) (t : σ) :
    (submit p verify store now e (s, t)).2.1.issuer.issuedSinceSweep = s.issuer.issuedSinceSweep ∧
      (submit p verify store now e (s, t)).2.1.begunSinceSweep = s.begunSinceSweep := by
  rcases hs.submit_cases verify store now e t with
    ⟨c, ending, -, -, -, hafter⟩ | ⟨id, a, -, -, -, hafter⟩ | hafter
  · rw [hafter]
    exact ⟨rfl, rfl⟩
  · rw [hafter]
    exact ⟨rfl, rfl⟩
  · rw [hafter]
    exact ⟨rfl, rfl⟩

/-! ## What a call makes of a state -/

/-- What becomes of the state of a challenge in one call. -/
inductive Fate (p : Policy) (s s' : Session) (id : Text) : Prop
  | kept (h : s'.state? id = s.state? id)
  | forgotten (h : s'.state? id = none)
  | begun (hnew : id = p.issuer.token s.issuer.drawn) (h : s'.state? id = some .issued)
  /-- The challenge was pending and is answered. -/
  | ended {ending : AuthState} (hpending : s.issuer.get? id ≠ none)
      (hterminal : ending.isTerminal = true) (h : s'.state? id = some ending)
  /-- The challenge is answered, and the issuer does not know it, though it has a state. -/
  | rejected (hgone : s.issuer.get? id = none) (hunmarked : s.issuer.isConsumed id = false)
      (hknown : s.state? id ≠ none) (h : s'.state? id = some .rejected)

theorem Consistent.fate_submit {s : Session} (hs : Consistent p s) (verify : Verifier)
    (store : RecordStore σ) (now : Moment) (e : SignedEvent) (t : σ) (id : Text) :
    Fate p s (submit p verify store now e (s, t)).2.1 id := by
  rcases hs.submit_cases verify store now e t with
    ⟨c, ending, -, hget, hterminal, hafter⟩ | ⟨other, a, hgone, hunmarked, ha, hafter⟩ | hafter
  · rw [hafter]
    have hstate := state?_conclude c ending s id
    by_cases hid : id = c.id
    · subst hid
      exact .ended (by rw [hget]; exact Option.some_ne_none c) hterminal (hstate.trans (if_pos rfl))
    · exact .kept (hstate.trans (if_neg hid))
  · rw [hafter]
    have hstate := state?_setState s other id .rejected
    by_cases hid : id = other
    · subst hid
      exact .rejected hgone hunmarked (by rw [ha]; exact Option.some_ne_none a)
        (hstate.trans (if_pos rfl))
    · exact .kept (hstate.trans (if_neg hid))
  · rw [hafter]
    exact .kept rfl

theorem Consistent.fate_perform {st : Session × σ} (hs : Consistent p st.1) (now : Moment)
    (call : Call σ) (id : Text) : Fate p st.1 (Session.perform p now call st).2.1 id := by
  obtain ⟨s, t⟩ := st
  cases call with
  | issue claimantKey lifetime =>
    simp only [Session.perform, issue_eq]
    cases p.grant now claimantKey lifetime with
    | error f => exact .kept rfl
    | ok second =>
      rcases state?_granted_or p second claimantKey lifetime s id with h | h | ⟨hnew, h⟩
      · exact .kept h
      · exact .forgotten h
      · exact .begun hnew h
  | submit verify store e => exact hs.fate_submit verify store now e t id
  | cancel other =>
    have hstate := state?_cancel other s id
    by_cases hwithdrawn : id = other ∧ s.state? other = some .issued
    · exact .forgotten (hstate.trans (if_pos hwithdrawn))
    · exact .kept (hstate.trans (if_neg hwithdrawn))
  | sweep =>
    simp only [Session.perform, sweep_eq]
    cases p.issuer.second now with
    | error f => exact .kept rfl
    | ok second =>
      let swept : Session := { s with issuer := (s.issuer.sweep p.issuer second).2 }
      have hstate := state?_forgetUntracked swept id
      by_cases htracked : swept.tracks id = true
      · exact .kept (hstate.trans (if_pos htracked))
      · exact .forgotten (hstate.trans (if_neg htracked))
  | claim other => exact .kept rfl
  | invalidate other => exact .kept rfl
  | sweepIssuer second => cases second <;> exact .kept rfl

/-! ## Challenges that are gone -/

/-- Where a pending challenge comes from: it was pending before, or the call registered it. -/
theorem get?_perform {st : Session × σ} (hs : Consistent p st.1) {now : Moment} {call : Call σ}
    {id : Text} {c : Challenge} (hget : (perform p now call st).2.1.issuer.get? id = some c) :
    st.1.issuer.get? id = some c ∨
      (id = p.issuer.token st.1.issuer.drawn ∧
        ∃ claimantKey lifetime second, call = .issue claimantKey lifetime ∧
          p.grant now claimantKey lifetime = .ok second ∧
          c = (st.1.registered p second claimantKey lifetime).1 ∧
          (perform p now call st).1 =
            .issued (st.1.handedOut p second claimantKey lifetime)) := by
  rcases perform_cases hs now call with
    ⟨claimantKey, lifetime, second, hcall, hgrant, hperform⟩ | ⟨-, h⟩
  · rw [hperform] at hget
    rcases get?_of_get?_granted second claimantKey lifetime hget with hold | ⟨hid, rfl⟩
    · exact .inl hold
    · refine .inr ⟨hid, claimantKey, lifetime, second, hcall, hgrant, rfl, ?_⟩
      rw [hperform]
  · exact .inl (h.get? hget)

/-- An identifier that was drawn and is not pending. -/
structure Gone (p : Policy) (s : Session) (id : Text) : Prop where
  drawn : Drawn p s id
  get?_eq_none : s.issuer.get? id = none

theorem Drawn.perform {st : Session × σ} {id : Text} (hid : Drawn p st.1 id)
    (hs : Consistent p st.1) (now : Moment) (call : Call σ) :
    Drawn p (perform p now call st).2.1 id := by
  rcases perform_cases hs now call with ⟨claimantKey, lifetime, second, -, -, hperform⟩ | ⟨-, h⟩
  · rw [hperform]
    exact hid.granted second claimantKey lifetime
  · exact hid.of_shrinks h

theorem Gone.perform {st : Session × σ} {id : Text} (htoken : Function.Injective p.issuer.token)
    (hid : Gone p st.1 id) (hs : Consistent p st.1) (now : Moment) (call : Call σ) :
    Gone p (perform p now call st).2.1 id where
  drawn := hid.drawn.perform hs now call
  get?_eq_none := by
    cases hget : (Session.perform p now call st).2.1.issuer.get? id with
    | none => rfl
    | some c =>
      rcases get?_perform hs hget with hold | ⟨hnew, -⟩
      · rw [hid.get?_eq_none] at hold
        cases hold
      · exact absurd hnew (hid.drawn.ne_token htoken)

theorem Drawn.final {st : Session × σ} {id : Text} (hid : Drawn p st.1 id)
    (hs : Consistent p st.1) (calls : List (Moment × Call σ)) :
    Drawn p (final p calls st).1 id :=
  (hs.final_induction (P := fun st => Drawn p st.1 id) hid
    (fun _ now call hs hid => hid.perform hs now call) calls).2

/-- With identifiers that never repeat, a challenge that is gone never comes back. -/
theorem Gone.final {st : Session × σ} {id : Text} (htoken : Function.Injective p.issuer.token)
    (hid : Gone p st.1 id) (hs : Consistent p st.1) (calls : List (Moment × Call σ)) :
    Gone p (final p calls st).1 id :=
  (hs.final_induction (P := fun st => Gone p st.1 id) hid
    (fun _ now call hs hid => hid.perform htoken hs now call) calls).2

/-! ## Lifetimes that can be written -/

/-- Whether a call asks for no challenge whose lifetime cannot be written. -/
def Call.isNameable (p : Policy) : Call σ → Bool
  | .issue _ lifetime => p.isNameable lifetime
  | .submit _ _ _ | .cancel _ | .sweep | .claim _ | .invalidate _ | .sweepIssuer _ => true

/-- Every pending challenge counts as issued. -/
def AllIssued (s : Session) : Prop :=
  ∀ id c, s.issuer.get? id = some c → s.state? id = some .issued

theorem AllIssued.perform {st : Session × σ} (h : AllIssued st.1) (hs : Consistent p st.1)
    (now : Moment) {call : Call σ} (hname : call.isNameable p = true) :
    AllIssued (perform p now call st).2.1 := by
  intro id c hget
  rcases perform_cases hs now call with
    ⟨claimantKey, lifetime, second, rfl, -, hperform⟩ | ⟨-, hshrinks⟩
  · rw [hperform] at hget ⊢
    rw [state?_granted_of_get? second claimantKey lifetime hget]
    split
    · rfl
    · next hnew =>
      rcases get?_of_get?_granted second claimantKey lifetime hget with hold | ⟨hid, -⟩
      · exact h id c hold
      · exact absurd ⟨hname, hid⟩ hnew
  · rw [hshrinks.kept hget]
    exact h id c (hshrinks.get? hget)

/-- Where every lifetime can be written, every pending challenge is issued. -/
theorem allIssued_final {calls : List (Moment × Call σ)}
    (hname : ∀ call ∈ calls, call.2.isNameable p = true) (records : σ) :
    AllIssued (Session.final p calls (start, records)).1 := by
  refine (Session.final_induction (fun call => call.isNameable p = true)
    (P := fun st => Consistent p st.1 ∧ AllIssued st.1) ⟨consistent_start p, ?_⟩ ?_ hname).2
  · intro id c hget
    cases hget
  · intro st now call hname hst
    exact ⟨hst.1.perform now call, hst.2.perform hst.1 now hname⟩

end ComputeDirectory.Identity.Session
