import ComputeDirectory.Proofs.Identity.Coherence

/-!
# Whether terminal states are final

A challenge in a terminal state is not pending and never will be again, so a later call leaves its
state alone or forgets it; with one exception (`Gone.state?_perform`). An answer to a challenge that
has a state, but is no longer remembered as consumed, rejects it, also when it was authenticated.

The exception needs an issuer that has swept a marker away while the session kept the state. In step
with its issuer a session never gets there, and its terminal states are final. Out of step there is
a run in which a replayed answer turns an authenticated challenge into a rejected one, as long as
the clock gets past the retention (`exists_reverts`).
-/

namespace ComputeDirectory.Identity.Session

variable {σ : Type} {p : Policy}

/-- Terminal states are final in a history: each stays until it is forgotten, and what is forgotten
stays forgotten. -/
structure Final (steps : List (Step σ)) : Prop where
  kept : ∀ s t id a, [s, t].Sublist steps → s.after.1.state? id = some a →
    a.isTerminal = true → t.after.1.state? id = some a ∨ t.after.1.state? id = none
  forgotten : ∀ s t u id a, [s, t, u].Sublist steps → s.after.1.state? id = some a →
    a.isTerminal = true → t.after.1.state? id = none → u.after.1.state? id = none

/-! ## What a call does to a terminal state -/

/-- A challenge in a terminal state is gone. -/
theorem Consistent.gone {s : Session} (hs : Consistent p s)
    (htoken : Function.Injective p.issuer.token) {id : Text} {a : AuthState}
    (ha : s.state? id = some a) (hterminal : a.isTerminal = true) : Gone p s id where
  drawn := hs.drawn_of_state? ha
  get?_eq_none := by
    cases hget : s.issuer.get? id with
    | none => rfl
    | some c =>
      rcases hs.open_of_get? htoken hget with hnone | hissued
      · rw [ha] at hnone
        cases hnone
      · rw [ha, Option.some.injEq] at hissued
        rw [hissued] at hterminal
        cases hterminal

/-- What a call leaves of the state of a challenge that is gone: the state itself, or nothing, or a
rejection if there was a state but no marker. -/
theorem Gone.state?_perform {st : Session × σ} {id : Text} (hid : Gone p st.1 id)
    (htoken : Function.Injective p.issuer.token) (hs : Consistent p st.1) (now : Moment)
    (call : Call σ) :
    (Session.perform p now call st).2.1.state? id = st.1.state? id ∨
      (Session.perform p now call st).2.1.state? id = none ∨
      (st.1.state? id ≠ none ∧ st.1.issuer.isConsumed id = false ∧
        (Session.perform p now call st).2.1.state? id = some .rejected) := by
  cases hs.fate_perform now call id with
  | kept h => exact .inl h
  | forgotten h => exact .inr (.inl h)
  | begun hnew => exact absurd hnew (hid.drawn.ne_token htoken)
  | ended hpending => exact absurd hid.get?_eq_none hpending
  | rejected hgone hunmarked hknown h => exact .inr (.inr ⟨hknown, hunmarked, h⟩)

/-! ## In any configuration -/

/-- However a run goes on, the state of a challenge that is gone stays, is forgotten, or turns into
a rejection. -/
theorem Gone.state?_final {st : Session × σ} {id : Text} (hid : Gone p st.1 id)
    (htoken : Function.Injective p.issuer.token) (hs : Consistent p st.1)
    (calls : List (Moment × Call σ)) :
    (Session.final p calls st).1.state? id = st.1.state? id ∨
      (Session.final p calls st).1.state? id = none ∨
      (st.1.state? id ≠ none ∧ (Session.final p calls st).1.state? id = some .rejected) := by
  suffices h : Gone p (Session.final p calls st).1 id ∧
      ((Session.final p calls st).1.state? id = st.1.state? id ∨
        (Session.final p calls st).1.state? id = none ∨
        (st.1.state? id ≠ none ∧ (Session.final p calls st).1.state? id = some .rejected)) from h.2
  refine (hs.final_induction (P := fun st' => Gone p st'.1 id ∧
    (st'.1.state? id = st.1.state? id ∨ st'.1.state? id = none ∨
      (st.1.state? id ≠ none ∧ st'.1.state? id = some .rejected))) ⟨hid, .inl rfl⟩ ?_ calls).2
  intro st' now call hs' hpast
  obtain ⟨hid', hstate⟩ := hpast
  refine ⟨hid'.perform htoken hs' now call, ?_⟩
  -- a state that was forgotten on the way cannot be rejected any more
  rcases hid'.state?_perform htoken hs' now call with h | h | ⟨hsome, -, h⟩
  · rw [h]
    exact hstate
  · exact .inr (.inl h)
  · refine .inr (.inr ⟨?_, h⟩)
    rcases hstate with hsame | hnone | hrejected
    · rwa [hsame] at hsome
    · exact absurd hnone hsome
    · exact hrejected.1

/-- A forgotten challenge stays forgotten in every run, whatever the configuration, and a terminal
state changes into no other than a rejection. -/
theorem kept_or_rejected_history (p : Policy) (htoken : Function.Injective p.issuer.token)
    (calls : List (Moment × Call σ)) (records : σ) :
    (∀ s t id a, [s, t].Sublist (history p calls (start, records)) →
      s.after.1.state? id = some a → a.isTerminal = true →
      t.after.1.state? id = some a ∨ t.after.1.state? id = none ∨
        t.after.1.state? id = some .rejected) ∧
    (∀ s t u id a, [s, t, u].Sublist (history p calls (start, records)) →
      s.after.1.state? id = some a → a.isTerminal = true → t.after.1.state? id = none →
      u.after.1.state? id = none) := by
  refine ⟨?_, ?_⟩
  · intro s t id a hsteps ha hterminal
    obtain ⟨before, rest, -, hs, hrest⟩ := after_of_sublist hsteps
    obtain ⟨between, -, -, ht, -⟩ := after_of_sublist hrest
    have hbefore : Consistent p s.after.1 := by
      rw [hs]
      exact consistent_final p before records
    have hlater := (hbefore.gone htoken ha hterminal).state?_final htoken hbefore between
    rw [← ht, ha] at hlater
    rcases hlater with h | h | h
    · exact .inl h
    · exact .inr (.inl h)
    · exact .inr (.inr h.2)
  · intro s t u id a hsteps ha hterminal hnone
    obtain ⟨before, rest, -, hs, hrest⟩ := after_of_sublist hsteps
    obtain ⟨between, rest', -, ht, hrest'⟩ := after_of_sublist hrest
    obtain ⟨after, -, -, hu, -⟩ := after_of_sublist hrest'
    have hbefore : Consistent p s.after.1 := by
      rw [hs]
      exact consistent_final p before records
    have hgone : Gone p t.after.1 id := by
      rw [ht]
      exact (hbefore.gone htoken ha hterminal).final htoken hbefore between
    have hmiddle : Consistent p t.after.1 := by
      rw [ht]
      exact hbefore.final between
    have hlater := hgone.state?_final htoken hmiddle after
    rw [← hu, hnone] at hlater
    rcases hlater with h | h | h
    · exact h
    · exact h
    · exact absurd rfl h.1

/-! ## In step with the issuer -/

/-- In step with its issuer, a session leaves the state of a challenge that is gone alone, or
forgets it. -/
theorem Coherent.state?_final {st : Session × σ} (hs : Coherent p st.1)
    (htoken : Function.Injective p.issuer.token) (hstep : p.InStep) {id : Text}
    (hid : Gone p st.1 id) {calls : List (Moment × Call σ)}
    (hcalls : ∀ call ∈ calls, call.2.isOwn = true ∧ call.2.isNameable p = true) :
    (Session.final p calls st).1.state? id = st.1.state? id ∨
      (Session.final p calls st).1.state? id = none := by
  suffices h : Coherent p (Session.final p calls st).1 ∧ Gone p (Session.final p calls st).1 id ∧
      ((Session.final p calls st).1.state? id = st.1.state? id ∨
        (Session.final p calls st).1.state? id = none) from h.2.2
  refine final_induction (fun call => call.isOwn = true ∧ call.isNameable p = true)
    (P := fun st' => Coherent p st'.1 ∧ Gone p st'.1 id ∧
      (st'.1.state? id = st.1.state? id ∨ st'.1.state? id = none)) ⟨hs, hid, .inl rfl⟩ ?_ hcalls
  intro st' now call hcall hpast
  obtain ⟨hs', hid', hstate⟩ := hpast
  refine ⟨hs'.perform htoken hstep now hcall.1 hcall.2,
    hid'.perform htoken hs'.consistent now call, ?_⟩
  rcases hid'.state?_perform htoken hs'.consistent now call with h | h | ⟨hsome, hunmarked, -⟩
  · rw [h]
    exact hstate
  · exact .inr h
  · -- neither pending nor consumed, but in some state: that is no situation
    obtain ⟨k, hk⟩ := hs'.situated id
    cases k with
    | waiting =>
      obtain ⟨⟨c, hget⟩, -, -⟩ := hk
      rw [hid'.get?_eq_none] at hget
      cases hget
    | ended =>
      rw [hk.2.1] at hunmarked
      cases hunmarked
    | unknown => exact absurd hk.2.2 hsome

theorem final_of_inStep (htoken : Function.Injective p.issuer.token) (hstep : p.InStep)
    {calls : List (Moment × Call σ)}
    (hcalls : ∀ call ∈ calls, call.2.isOwn = true ∧ call.2.isNameable p = true) (records : σ) :
    Final (history p calls (start, records)) where
  kept := by
    intro s t id a hsteps ha hterminal
    obtain ⟨before, rest, rfl, hs, hrest⟩ := after_of_sublist hsteps
    obtain ⟨between, after, rfl, ht, -⟩ := after_of_sublist hrest
    have hbefore : Coherent p s.after.1 := by
      rw [hs]
      exact coherent_final htoken hstep (fun call h => hcalls call (by simp [h])) records
    have hbetween : ∀ call ∈ between, call.2.isOwn = true ∧ call.2.isNameable p = true :=
      fun call h => hcalls call (by simp [h])
    have hgone := hbefore.consistent.gone htoken ha hterminal
    have hlater := hbefore.state?_final htoken hstep hgone hbetween
    rwa [← ht, ha] at hlater
  forgotten := by
    intro s t u id a hsteps ha hterminal hnone
    exact (kept_or_rejected_history p htoken calls records).2 s t u id a hsteps ha hterminal hnone

/-! ## Out of step with the issuer -/

/-- Whether the clock gets from a moment that can be written down past the time for which a
challenge is remembered that was begun then. -/
def Policy.Elapses (p : Policy) : Prop :=
  ∃ now later verifiedAt second second', stamp now = .ok verifiedAt ∧
    p.issuer.second now = .ok second ∧ p.issuer.second later = .ok second' ∧
    second + 1 + p.issuer.retention < second'

/-- A clock that drops fractions shows every second. -/
theorem Policy.elapses_of_floored (hclock : p.issuer.clock = .floored) : p.Elapses := by
  refine ⟨0, Moment.ofSeconds (p.issuer.retention + 2), _, 0, p.issuer.retention + 2, rfl, ?_, ?_,
    by omega⟩
  · rw [Issuer.Policy.second, hclock]
    rfl
  · rw [Issuer.Policy.second, hclock]
    show Except.ok _ = Except.ok _
    rw [Except.ok.injEq, Moment.seconds, Moment.ofSeconds]
    omega

/-- An authenticated challenge whose marker is still there, some issues after the last sweep. -/
structure Held (p : Policy) (s : Session) (id : Text) (expiresAt : Int) (count : Nat) : Prop where
  consistent : Consistent p s
  paced : Paced p s
  issued_eq : s.issuer.issuedSinceSweep = count
  marker : s.issuer.consumed.get? id = some expiresAt
  state : s.state? id = some .authenticated

namespace Held

variable {s : Session} {id : Text} {expiresAt : Int} {count : Nat}

theorem isConsumed (h : Held p s id expiresAt count) : s.issuer.isConsumed id = true := by
  show (s.issuer.consumed.get? id).isSome = true
  rw [h.marker]
  rfl

theorem ne_registered (h : Held p s id expiresAt count)
    (htoken : Function.Injective p.issuer.token) (second : Int) (claimantKey : Text)
    (lifetime : Option Int) : id ≠ (s.registered p second claimantKey lifetime).1.id :=
  (h.consistent.drawn_of_state? h.state).ne_token htoken

/-- A sweep starts the count. -/
theorem sweep (hs : Consistent p s) (hmarker : s.issuer.consumed.get? id = some expiresAt)
    (hstate : s.state? id = some .authenticated) {second : Int}
    (hfresh : second ≤ expiresAt + p.issuer.retention) :
    Held p { s with issuer := (s.issuer.sweep p.issuer second).2 }.forgetUntracked id expiresAt
      0 := by
  have hkept : (s.issuer.sweep p.issuer second).2.consumed.get? id = some expiresAt := by
    rw [Issuer.get?_consumed_sweep, hmarker, Option.filter_some_pos]
    simpa [Issuer.isStale] using hfresh
  have htracks : { s with issuer := (s.issuer.sweep p.issuer second).2 : Session }.tracks id =
      true := by
    show (_ || ((s.issuer.sweep p.issuer second).2.consumed.get? id).isSome) = true
    rw [hkept]
    exact Bool.or_true _
  refine ⟨hs.of_shrinks (.sweep p.issuer second s), .of_zero rfl rfl, rfl, hkept, ?_⟩
  rw [state?_forgetUntracked, if_pos htracks]
  exact hstate

section Granted

variable {lifetime : Option Int}

/-- Up to the next sweep of the issuer, issuing more challenges changes nothing about it. -/
theorem granted (h : Held p s id expiresAt count) (htoken : Function.Injective p.issuer.token)
    (hname : p.isNameable lifetime = true) (hcount : (count : Int) + 1 < p.issuer.sweepEvery)
    (second : Int) (claimantKey : Text) :
    Held p (s.granted p second claimantKey lifetime) id expiresAt (count + 1) := by
  have hsweeps : ¬ s.issuer.SweepsNext p.issuer (lifetime.getD p.defaultLifetime) := by
    rw [Issuer.sweepsNext_iff hname, h.issued_eq]
    omega
  have hmarkers : (s.granted p second claimantKey lifetime).issuer.consumed = s.issuer.consumed := by
    rw [issuer_granted]
    exact Issuer.consumed_register _ _ _ _ _ _ hsweeps
  have htracks : (s.granted p second claimantKey lifetime).tracks id = true := by
    rw [tracks, Issuer.isConsumed, hmarkers, OrderedMap.contains, h.marker]
    exact Bool.or_true _
  refine ⟨h.consistent.granted second claimantKey lifetime,
    h.paced.granted_of_not_sweepsNext hname hsweeps second claimantKey, ?_, ?_, ?_⟩
  · rw [issuer_granted, registered, Issuer.issuedSinceSweep_register, if_neg hsweeps, h.issued_eq]
  · rw [hmarkers, h.marker]
  · rw [state?_granted_of_tracks htracks,
      if_neg fun hboth => h.ne_registered htoken second claimantKey lifetime hboth.2, h.state]

theorem final_replicate {now : Moment} {claimantKey : Text} {second : Int}
    (htoken : Function.Injective p.issuer.token) (hname : p.isNameable lifetime = true)
    (hgrant : p.grant now claimantKey lifetime = .ok second) (more : Nat) {t : σ}
    (h : Held p s id expiresAt count) (hcount : (count : Int) + more < p.issuer.sweepEvery) :
    Held p (final p (List.replicate more (now, .issue claimantKey lifetime)) (s, t)).1 id expiresAt
      (count + more) := by
  induction more generalizing s count with
  | zero => exact h
  | succ more ih =>
    have hnext : (Session.perform p now (.issue claimantKey lifetime) (s, t)).2 =
        (s.granted p second claimantKey lifetime, t) := by
      simp only [Session.perform, issue_eq, hgrant]
    have hheld := ih (h.granted htoken hname (by omega) second claimantKey) (by omega)
    rw [List.replicate_succ, Session.final, hnext, Nat.add_comm more 1, ← Nat.add_assoc]
    exact hheld

/-- The issue that completes the count sweeps the marker away when it is stale; out of step with its
issuer, the session keeps the state. -/
theorem lose (h : Held p s id expiresAt count) (htoken : Function.Injective p.issuer.token)
    (hstep : ¬ p.InStep) (hname : p.isNameable lifetime = true)
    (hcount : (count : Int) + 1 = p.issuer.sweepEvery) {second : Int}
    (hstale : expiresAt + p.issuer.retention < second) (claimantKey : Text) :
    (s.granted p second claimantKey lifetime).state? id = some .authenticated ∧
      (s.granted p second claimantKey lifetime).issuer.isConsumed id = false := by
  have hsweeps : s.issuer.SweepsNext p.issuer (lifetime.getD p.defaultLifetime) := by
    rw [Issuer.sweepsNext_iff hname, h.issued_eq]
    omega
  have hforgets : ¬ s.ForgetsNext p := fun hforgets =>
    hstep ((h.paced.forgetsNext_iff_inStep hsweeps).1 hforgets)
  refine ⟨?_, ?_⟩
  · rw [granted_of_isNameable hname, state?_track, if_neg fun hboth => hforgets hboth.1,
      if_neg (h.ne_registered htoken second claimantKey lifetime), h.state]
  · rw [issuer_granted, registered, Issuer.isConsumed_register, if_pos hsweeps, h.marker]
    simpa [Issuer.isStale] using hstale

/-- So the same answer once more rejects the challenge. -/
theorem reverts (h : Held p s id expiresAt count) (htoken : Function.Injective p.issuer.token)
    (hstep : ¬ p.InStep) (hname : p.isNameable lifetime = true)
    (hcount : (count : Int) + 1 = p.issuer.sweepEvery) {later : Moment} {claimantKey : Text}
    {second : Int} (hgrant : p.grant later claimantKey lifetime = .ok second)
    (hstale : expiresAt + p.issuer.retention < second) (verify : Verifier) (store : RecordStore σ)
    {e : SignedEvent} (htag : e.challengeId? = some id) (t : σ) :
    (final p [(later, .issue claimantKey lifetime), (later, .submit verify store e)]
      (s, t)).1.state? id = some .rejected := by
  obtain ⟨hkept, hlost⟩ := h.lose htoken hstep hname hcount hstale claimantKey
  have hgone := (h.consistent.granted second claimantKey lifetime).gone htoken hkept rfl
  have hcontains : (s.granted p second claimantKey lifetime).states.contains id = true :=
    Option.isSome_iff_exists.2 ⟨_, hkept⟩
  simp only [Session.final, Session.perform, issue_eq, hgrant]
  rw [submit_of_unknown p verify store later t htag hgone.get?_eq_none hlost, if_pos hcontains,
    state?_setState, if_pos rfl]

end Granted

end Held

/-- A lifetime of one second can be written. -/
theorem isNameable_one (p : Policy) : p.isNameable (some 1) = true := by
  show Json.isShort 1 = true
  decide

/-- A challenge that is begun first of all and answered at once is authenticated. -/
theorem authenticated_start (hkey : isKey p.serverKey = true) {now : Moment} {second : Int}
    {verifiedAt : Timestamp} (hsecond : p.issuer.second now = .ok second)
    (hstamp : stamp now = .ok verifiedAt) (t : RecordShelf) :
    let c := (start.registered p second p.serverKey (some 1)).1
    let st := Session.final p [(now, .issue p.serverKey (some 1)),
      (now, .submit (fun _ => .ok ()) shelfRecords (answerTo c ""))] (start, t)
    st.1.issuer.consumed.get? c.id = some c.expiresAt ∧
      st.1.state? c.id = some .authenticated := by
  intro c st
  have hlifetime : 0 < (some 1).getD p.defaultLifetime := Int.one_pos
  have hgrant : p.grant now p.serverKey (some 1) = .ok second :=
    Issuer.Policy.grant_of_isKey hlifetime hkey hkey hsecond
  let s := start.granted p second p.serverKey (some 1)
  have hget : s.issuer.get? c.id = some c :=
    get?_granted_self p second p.serverKey hlifetime start
  have hintime : second ≤ c.expiresAt := by
    show second ≤ second + 1
    omega
  have hfinal : st.1 = s.conclude c .authenticated := by
    have hsubmit : submit p (fun _ => .ok ()) shelfRecords now (answerTo c "") (s, t) =
        (_, s.conclude c .authenticated, _) :=
      submit_of_answeredBy hget (answeredBy_answerTo c "") hsecond hintime rfl hstamp rfl
    simp only [st, Session.final, Session.perform, issue_eq, hgrant]
    exact congrArg (fun result => result.2.1) hsubmit
  rw [hfinal]
  refine ⟨?_, ?_⟩
  · show (s.issuer.consumed.insert c.id c.expiresAt).get? c.id = some c.expiresAt
    rw [OrderedMap.get?_insert, if_pos rfl]
  · rw [state?_conclude, if_pos rfl]

/-- Out of step with its issuer a session takes back that a challenge was authenticated. -/
theorem exists_reverts (htoken : Function.Injective p.issuer.token)
    (hkey : isKey p.serverKey = true) (helapses : p.Elapses) (hstep : ¬ p.InStep) :
    ∃ calls : List (Moment × Call RecordShelf),
      (∀ call ∈ calls, call.2.isOwn = true ∧ call.2.isNameable p = true) ∧
      ∃ s t id, [s, t].Sublist (history p calls (start, .empty)) ∧
        s.after.1.state? id = some .authenticated ∧ t.after.1.state? id = some .rejected := by
  obtain ⟨now, later, verifiedAt, second, second', hstamp, hsecond, hsecond', hlong⟩ := helapses
  let c := (start.registered p second p.serverKey (some 1)).1
  let issue : Call RecordShelf := .issue p.serverKey (some 1)
  let answer : Call RecordShelf := .submit (fun _ => .ok ()) shelfRecords (answerTo c "")
  obtain ⟨hmarker, hstate⟩ := authenticated_start hkey hsecond hstamp .empty
  let answered := Session.final p [(now, issue), (now, answer)] (start, .empty)
  -- both counters start anew, and the issue that makes the issuer sweep comes late
  let few := (p.issuer.sweepEvery - 1).toNat
  let waited := Session.final p ((now, .sweep) :: List.replicate few (now, issue)) answered
  have hpos := p.issuer.sweepEvery_pos
  have hgrant {now : Moment} {second : Int} (h : p.issuer.second now = .ok second) :
      p.grant now p.serverKey (some 1) = .ok second :=
    Issuer.Policy.grant_of_isKey Int.one_pos hkey hkey h
  have hheld : Held p waited.1 c.id c.expiresAt few := by
    have hswept : (Session.perform p now .sweep answered).2 =
        ({ answered.1 with issuer := (answered.1.issuer.sweep p.issuer second).2
            }.forgetUntracked, answered.2) := by
      simp only [Session.perform, sweep_eq, hsecond]
    have hfresh : second ≤ c.expiresAt + p.issuer.retention := by
      show second ≤ second + 1 + _
      have hretention := p.issuer.retention_nonneg
      omega
    have hstart := Held.sweep (consistent_final p _ _) hmarker hstate hfresh
    have hmore := hstart.final_replicate htoken (isNameable_one p) (hgrant hsecond) few
      (t := answered.2) (by omega)
    rw [Nat.zero_add] at hmore
    show Held p (Session.final p _ (Session.perform p now .sweep answered).2).1 _ _ _
    rw [hswept]
    exact hmore
  have hrejected := hheld.reverts htoken hstep (isNameable_one p) (by omega) (hgrant hsecond') hlong
    (fun _ => .ok ()) shelfRecords (answeredBy_answerTo c "").challengeId? waited.2
  let between := (now, Call.sweep) :: List.replicate few (now, issue) ++ [(later, issue)]
  refine ⟨[(now, issue)] ++ (now, answer) :: (between ++ (later, answer) :: []), ?_, _, _, c.id,
    pair_sublist_history p [(now, issue)] between [] now later answer answer (start, .empty),
    hstate, ?_⟩
  · have hissue : issue.isOwn = true ∧ issue.isNameable p = true := ⟨rfl, isNameable_one p⟩
    intro call hcall
    simp only [between, List.mem_append, List.mem_cons, List.mem_replicate, List.not_mem_nil] at hcall
    rcases hcall with (rfl | h) | rfl | ((rfl | ⟨-, rfl⟩) | rfl | h) | rfl | h <;>
      first | exact hissue | exact ⟨rfl, rfl⟩ | cases h
  · show (Session.perform p later answer (Session.final p between answered)).2.1.state? c.id = _
    rw [final_append]
    exact hrejected

/-- The terminal states of a session are final in all runs of its own calls if it is in step with its
issuer, and not in all of them if it is out of step. The lifetimes asked for are such that can be
written. -/
theorem terminal_final (p : Policy) (htoken : Function.Injective p.issuer.token) :
    (p.InStep → ∀ (σ : Type) (calls : List (Moment × Call σ)) (records : σ),
      (∀ call ∈ calls, call.2.isOwn = true ∧ call.2.isNameable p = true) →
      Final (history p calls (start, records))) ∧
    (isKey p.serverKey = true → p.Elapses → ¬ p.InStep →
      ∃ calls : List (Moment × Call RecordShelf),
        (∀ call ∈ calls, call.2.isOwn = true ∧ call.2.isNameable p = true) ∧
        ∃ s t id, [s, t].Sublist (history p calls (start, .empty)) ∧
          s.after.1.state? id = some .authenticated ∧ t.after.1.state? id = some .rejected) := by
  refine ⟨?_, ?_⟩
  · intro hstep σ calls records hcalls
    exact final_of_inStep htoken hstep hcalls records
  · intro hkey helapses hstep
    exact exists_reverts htoken hkey helapses hstep

/-- A session that forgets with every fourth challenge is in step with an issuer that sweeps with
every eighth; one that forgets with every third is not. -/
theorem terminal_final_sample :
    Final (history (samplePolicy 4 8 0) [(0, sampleIssue), (1000000, sampleSubmit 0),
      (61000000, .sweep), (61000000, sampleSubmit 0)] (start, .empty)) ∧
    ∃ calls : List (Moment × Call RecordShelf),
      (∀ call ∈ calls, call.2.isOwn = true ∧ call.2.isNameable (samplePolicy 3 8 0) = true) ∧
      ∃ s t id, [s, t].Sublist (history (samplePolicy 3 8 0) calls (start, .empty)) ∧
        s.after.1.state? id = some .authenticated ∧ t.after.1.state? id = some .rejected := by
  refine ⟨?_, ?_⟩
  · refine (terminal_final (samplePolicy 4 8 0) sampleToken_injective).1 (by decide) _ _ _ ?_
    have hissue : sampleIssue.isNameable (samplePolicy 4 8 0) = true := by decide
    simp only [List.forall_mem_cons]
    exact ⟨⟨rfl, hissue⟩, ⟨rfl, rfl⟩, ⟨rfl, rfl⟩, ⟨rfl, rfl⟩, by simp⟩
  · exact (terminal_final (samplePolicy 3 8 0) sampleToken_injective).2 (by decide)
      (Policy.elapses_of_floored rfl) (by decide)

/-- An issuer that sweeps with every challenge forgets an answered one as soon as it has expired;
the session, which forgets with every 256th, still knows it, and rejects it at the second answer. -/
theorem not_final_replayed :
    ¬ Final (history (samplePolicy 256 1 0) [(0, sampleIssue), (1000000, sampleSubmit 0),
      (61000000, sampleIssue), (61000000, sampleSubmit 0)] (start, .empty)) := by
  intro h
  have hpair := pair_sublist_history (samplePolicy 256 1 0) [(0, sampleIssue)]
    [(61000000, sampleIssue)] [] 1000000 61000000 (sampleSubmit 0) (sampleSubmit 0) (start, .empty)
  rcases h.kept _ _ (sampleToken 0) .authenticated hpair rfl rfl with hsame | hnone
  · cases hsame
  · cases hnone

end ComputeDirectory.Identity.Session
