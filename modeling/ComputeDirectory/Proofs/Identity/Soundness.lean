import ComputeDirectory.Proofs.Identity.Consistency

/-!
# Who gets authenticated

A record is given only for an answer to a challenge that was registered before, in time, by the
claimant and for the server that the challenge is bound to, and accepted by the verifier. It is given
at most once for each challenge, and never for one that was withdrawn. This holds of every run, with
the calls in any order and a clock that may go back.

A challenge that was registered was also handed out, unless its lifetime has too many digits to be
written: then the call that registers it fails, and an answer can only guess the identifier.

The proof does not rest on the consumed markers, which sweeps forget. A pending challenge was
registered earlier in the run (`get?_registered`), an answer is accepted only while its challenge is
pending (`pending_of_answered`), and what is no longer pending is gone for good (`Gone.final`).
-/

namespace ComputeDirectory.Identity

/-! ## First tags -/

/-- Of the tags that have a name and a value, the first of that name carries this value. -/
def FirstTag (name value : Text) (tags : List (List Text)) : Prop :=
  ∃ before more after, tags = before ++ (name :: value :: more) :: after ∧
    ∀ tag ∈ before, ∀ other rest, tag ≠ name :: other :: rest

private theorem firstTag_cons {name value : Text} {tag : List Text} {tags : List (List Text)}
    (htag : ∀ other rest, tag ≠ name :: other :: rest) :
    FirstTag name value (tag :: tags) ↔ FirstTag name value tags := by
  constructor
  · rintro ⟨before, more, after, htags, hbefore⟩
    cases before with
    | nil =>
      rw [List.nil_append, List.cons.injEq] at htags
      exact absurd htags.1 (htag value more)
    | cons first before =>
      rw [List.cons_append, List.cons.injEq] at htags
      exact ⟨before, more, after, htags.2, fun tag h => hbefore tag (List.mem_cons_of_mem _ h)⟩
  · rintro ⟨before, more, after, rfl, hbefore⟩
    refine ⟨tag :: before, more, after, rfl, ?_⟩
    intro other h
    rcases List.mem_cons.1 h with rfl | h
    · exact htag
    · exact hbefore other h

/-- Looking up a tag finds the first one. -/
theorem tagValue?_eq_some_iff {name value : Text} {tags : List (List Text)} :
    tagValue? name tags = some value ↔ FirstTag name value tags := by
  induction tags using tagValue?.induct name with
  | case1 =>
    constructor
    · intro h
      cases h
    · rintro ⟨before, more, after, htags, -⟩
      simp at htags
  | case2 found more rest =>
    rw [tagValue?, if_pos rfl, Option.some.injEq]
    constructor
    · rintro rfl
      exact ⟨[], more, rest, rfl, by simp⟩
    · rintro ⟨before, more', after, htags, hbefore⟩
      cases before with
      | nil =>
        rw [List.nil_append, List.cons.injEq, List.cons.injEq, List.cons.injEq] at htags
        exact htags.1.2.1
      | cons first before =>
        rw [List.cons_append, List.cons.injEq] at htags
        exact absurd htags.1.symm (hbefore first (List.mem_cons_self ..) found more)
  | case3 first found more rest hfirst ih =>
    rw [tagValue?, if_neg hfirst, ih]
    refine (firstTag_cons ?_).symm
    intro other rest h
    exact hfirst (List.cons.inj h).1
  | case4 tag rest hshort ih =>
    -- a tag without a value is passed over, whatever its name
    rw [tagValue?, ih]
    · refine (firstTag_cons ?_).symm
      intro other more h
      exact hshort name other more h
    · exact hshort

namespace Session

variable {σ : Type} {p : Policy}

/-! ## What a record attests -/

/-- An event answers a challenge as it has to, and the record says so. -/
structure Attests (p : Policy) (now : Moment) (verify : Verifier) (e : SignedEvent) (c : Challenge)
    (r : AuthRecord) : Prop where
  challengeTag : FirstTag challengeTag c.id e.tags
  serverKeyTag : FirstTag serverKeyTag c.serverKey e.tags
  serverKey : c.serverKey = p.serverKey
  kind : e.kind = 22242
  publicKey : e.publicKey = c.claimantKey
  identity : r.identity = c.claimantKey
  challengeId : r.challengeId = c.id
  inTime : ∃ second, p.issuer.second now = .ok second ∧ second ≤ c.expiresAt
  verified : verify e = .ok ()

/-- A challenge is registered by a step: the step asks for one, and this one becomes pending. -/
def Step.Registers (b : Step σ) (c : Challenge) : Prop :=
  (∃ claimantKey lifetime, b.call = .issue claimantKey lifetime) ∧
    b.before.1.issuer.get? c.id = none ∧ b.after.1.issuer.get? c.id = some c

/-- A challenge is begun by a step: it is asked for, and handed out. -/
def Step.Begins (b : Step σ) (c : Challenge) : Prop :=
  (∃ claimantKey lifetime, b.call = .issue claimantKey lifetime) ∧ b.reply = .issued (.ok c)

/-- A challenge is cancelled, invalidated or claimed by a step, or swept in it: it was pending
before and is not afterwards. -/
def Step.Withdraws (s : Step σ) (id : Text) : Prop :=
  s.call = .cancel id ∨ s.call = .invalidate id ∨ s.call = .claim id ∨
    (s.before.1.issuer.get? id ≠ none ∧ s.after.1.issuer.get? id = none)

theorem checkBinding_eq_ok {c : Challenge} {e : SignedEvent} (h : checkBinding c e = .ok ()) :
    e.kind = authEventKind ∧ e.serverKey? = some c.serverKey ∧ e.publicKey = c.claimantKey := by
  unfold checkBinding at h
  split at h
  · cases h
  · next hkind =>
    split at h
    · cases h
    · next hserver =>
      split at h
      · cases h
      · next hclaimant =>
        exact ⟨Decidable.not_not.1 hkind, Decidable.not_not.1 hserver, Decidable.not_not.1 hclaimant⟩

/-- A record is given for a pending challenge, which is not pending afterwards. -/
theorem pending_of_answered {st : Session × σ} (hs : Consistent p st.1) {now : Moment}
    {call : Call σ} {r : AuthRecord} (h : (perform p now call st).1 = .answered (.ok r)) :
    ∃ verify store e c, call = .submit verify store e ∧ st.1.issuer.get? c.id = some c ∧
      Attests p now verify e c r ∧ (perform p now call st).2.1.issuer.get? c.id = none := by
  obtain ⟨s, t⟩ := st
  cases call with
  | submit verify store e =>
    simp only [perform, Reply.answered.injEq] at h ⊢
    cases hnamed : e.challengeId?.bind s.issuer.get? with
    | none =>
      obtain ⟨f, s', hsubmit, -⟩ := submit_of_not_pending p verify store now t hnamed
      rw [hsubmit] at h
      cases h
    | some c =>
      obtain ⟨id, htag, hget⟩ := Option.bind_eq_some_iff.1 hnamed
      obtain ⟨rfl, hserver⟩ := hs.filed hget
      rw [submit_of_pending p verify store now t htag hget] at h ⊢
      obtain ⟨second, verifiedAt, hsecond, hintime, hbinding, hverify, rfl, -, -⟩ :=
        judge_eq_ok (Prod.ext h rfl)
      obtain ⟨hkind, htagged, hclaimant⟩ := checkBinding_eq_ok hbinding
      refine ⟨verify, store, e, c, rfl, hget, ?_, ?_⟩
      · exact {
          challengeTag := tagValue?_eq_some_iff.1 htag
          serverKeyTag := tagValue?_eq_some_iff.1 htagged
          serverKey := hserver
          kind := hkind
          publicKey := hclaimant
          identity := hclaimant
          challengeId := rfl
          inTime := ⟨second, hsecond, hintime⟩
          verified := hverify }
      · show (s.issuer.spend c.id c.expiresAt).get? c.id = none
        rw [Issuer.get?_spend, if_pos rfl]
  | issue claimantKey lifetime => cases h
  | cancel id => cases h
  | sweep => cases h
  | claim id => cases h
  | invalidate id => cases h
  | sweepIssuer second => cases second <;> cases h

/-! ## Where pending challenges come from -/

/-- A challenge that is begun was granted, with a lifetime that can be written. -/
theorem granted_of_begins {st : Session × σ} (hs : Consistent p st.1) {now : Moment} {call : Call σ}
    {c : Challenge} (h : (stepOf p now call st).Begins c) :
    ∃ claimantKey lifetime second, call = .issue claimantKey lifetime ∧
      p.grant now claimantKey lifetime = .ok second ∧ p.isNameable lifetime = true ∧
      c = (st.1.registered p second claimantKey lifetime).1 ∧
      (perform p now call st).2.1 = st.1.granted p second claimantKey lifetime := by
  have hreply : (perform p now call st).1 = .issued (.ok c) := h.2
  rcases perform_cases hs now call with
    ⟨claimantKey, lifetime, second, hcall, hgrant, hperform⟩ | ⟨hnone, -⟩
  · rw [hperform, Reply.issued.injEq] at hreply
    obtain ⟨hname, rfl⟩ := eq_of_handedOut_eq_ok hreply
    exact ⟨claimantKey, lifetime, second, hcall, hgrant, hname, rfl, by rw [hperform]⟩
  · rw [hreply] at hnone
    cases hnone

/-- With identifiers that never repeat, a challenge that is begun becomes pending. -/
theorem registers_of_begins (htoken : Function.Injective p.issuer.token) {st : Session × σ}
    (hs : Consistent p st.1) {now : Moment} {call : Call σ} {c : Challenge}
    (h : (stepOf p now call st).Begins c) : (stepOf p now call st).Registers c := by
  obtain ⟨claimantKey, lifetime, second, -, hgrant, -, rfl, hafter⟩ := granted_of_begins hs h
  refine ⟨h.1, ?_, ?_⟩
  · show st.1.issuer.get? (p.issuer.token st.1.issuer.drawn) = none
    cases hget : st.1.issuer.get? (p.issuer.token st.1.issuer.drawn) with
    | none => rfl
    | some d => exact absurd rfl ((hs.drawn_of_get? hget).ne_token htoken)
  · show (perform p now call st).2.1.issuer.get? _ = _
    rw [hafter]
    exact get?_granted_self p second claimantKey (Issuer.Policy.grant_eq_ok hgrant).1 st.1

/-- A pending challenge was registered earlier in the run, and begun if its lifetime can be
written. -/
theorem get?_registered (p : Policy) (htoken : Function.Injective p.issuer.token)
    (calls : List (Moment × Call σ)) (records : σ) {id : Text} {c : Challenge}
    (hget : (final p calls (start, records)).1.issuer.get? id = some c) :
    ∃ b ∈ history p calls (start, records), b.Registers c ∧
      (b.call.isNameable p = true → b.Begins c) := by
  have hboth : Consistent p (final p calls (start, records)).1 ∧
      ∀ id c, (final p calls (start, records)).1.issuer.get? id = some c →
        ∃ b ∈ history p calls (start, records), b.Registers c ∧
          (b.call.isNameable p = true → b.Begins c) := by
    refine history_induction (fun _ => True)
      (P := fun past st => Consistent p st.1 ∧
        ∀ id c, st.1.issuer.get? id = some c → ∃ b ∈ past, b.Registers c ∧
          (b.call.isNameable p = true → b.Begins c)) ?_ ?_ fun _ _ => trivial
    · refine ⟨consistent_start p, ?_⟩
      intro id c hget
      cases hget
    · intro past st now call _ hpast
      refine ⟨hpast.1.perform now call, ?_⟩
      intro id c hget
      rcases get?_perform hpast.1 hget with
        hold | ⟨rfl, claimantKey, lifetime, second, rfl, -, rfl, hreply⟩
      · obtain ⟨b, hb, hregisters⟩ := hpast.2 id c hold
        exact ⟨b, List.mem_append_left _ hb, hregisters⟩
      · refine ⟨stepOf p now (.issue claimantKey lifetime) st, by simp,
          ⟨⟨claimantKey, lifetime, rfl⟩, ?_, hget⟩, fun hname => ?_⟩
        · show st.1.issuer.get? (p.issuer.token st.1.issuer.drawn) = none
          cases hold : st.1.issuer.get? (p.issuer.token st.1.issuer.drawn) with
          | none => rfl
          | some d => exact absurd rfl ((hpast.1.drawn_of_get? hold).ne_token htoken)
        · exact ⟨⟨claimantKey, lifetime, rfl⟩,
            hreply.trans (congrArg Reply.issued (handedOut_of_isNameable hname))⟩
  exact hboth.2 id c hget

/-! ## What no longer gets a record -/

theorem get?_of_withdraws {st : Session × σ} {now : Moment} {call : Call σ} {id : Text}
    (h : (stepOf p now call st).Withdraws id) :
    (perform p now call st).2.1.issuer.get? id = none := by
  rcases h with h | h | h | h
  · cases h
    show (st.1.cancel id).issuer.get? id = none
    rw [issuer_cancel, Issuer.get?_invalidate, if_pos rfl]
  · cases h
    show (st.1.issuer.invalidate id).get? id = none
    rw [Issuer.get?_invalidate, if_pos rfl]
  · cases h
    show (Issuer.claim id st.1.issuer).2.get? id = none
    cases hget : st.1.issuer.get? id with
    | none => rw [Issuer.claim_of_get?_eq_none hget, hget]
    | some c => rw [Issuer.claim_of_get?_eq_some hget, Issuer.get?_spend, if_pos rfl]
  · exact h.2

/-- No record is given for a challenge that is gone, however the run goes on. -/
theorem Gone.not_answered {st : Session × σ} {id : Text}
    (htoken : Function.Injective p.issuer.token) (hid : Gone p st.1 id) (hs : Consistent p st.1)
    {calls : List (Moment × Call σ)} {t : Step σ} (ht : t ∈ history p calls st) {r : AuthRecord}
    (hr : t.reply = .answered (.ok r)) : r.challengeId ≠ id := by
  obtain ⟨before, now, call, after, -, rfl⟩ := mem_history ht
  obtain ⟨verify, store, e, c, -, hget, hattests, -⟩ := pending_of_answered (hs.final before) hr
  rintro rfl
  have hgone := (hid.final htoken hs before).get?_eq_none
  rw [hattests.challengeId, hget] at hgone
  cases hgone

/-! ## Soundness -/

/-- Every record attests a challenge registered before, and begun if its lifetime can be written; no
challenge gets two, and a challenge that was withdrawn gets none. -/
theorem authentication_sound (p : Policy) (htoken : Function.Injective p.issuer.token)
    (calls : List (Moment × Call σ)) (records : σ) :
    (∀ l s r verify store e record, history p calls (start, records) = l ++ s :: r →
      s.call = .submit verify store e → s.reply = .answered (.ok record) →
      ∃ b ∈ l, ∃ c, b.Registers c ∧ (b.call.isNameable p = true → b.Begins c) ∧
        Attests p s.now verify e c record) ∧
    (∀ s t record record', [s, t].Sublist (history p calls (start, records)) →
      s.reply = .answered (.ok record) → t.reply = .answered (.ok record') →
      record.challengeId ≠ record'.challengeId) ∧
    (∀ b s t c record, [b, s, t].Sublist (history p calls (start, records)) →
      b.Registers c ∨ b.Begins c → s.Withdraws c.id → t.reply = .answered (.ok record) →
      record.challengeId ≠ c.id) := by
  refine ⟨?_, ?_, ?_⟩
  · intro l s r verify store e record hsteps hcall hreply
    obtain ⟨before, now, call, after, -, rfl, rfl, -⟩ := history_eq_append_cons hsteps
    obtain ⟨verify', store', e', c, hcall', hget, hattests, -⟩ :=
      pending_of_answered (consistent_final p before records) hreply
    obtain ⟨rfl, rfl, rfl⟩ := Call.submit.inj (hcall.symm.trans hcall')
    obtain ⟨b, hb, hregisters, hbegins⟩ := get?_registered p htoken before records hget
    exact ⟨b, hb, c, hregisters, hbegins, hattests⟩
  · -- the first answer leaves its challenge gone, so the second is to another one
    intro s t record record' hsteps hs ht
    obtain ⟨before, now, call, after, -, rfl, hrest⟩ := sublist_history hsteps
    have hbefore := consistent_final p before records
    obtain ⟨verify, store, e, c, -, hget, hattests, hnone⟩ := pending_of_answered hbefore hs
    have hgone : Gone p (perform p now call (final p before (start, records))).2.1 c.id :=
      ⟨(hbefore.drawn_of_get? hget).perform hbefore now call, hnone⟩
    rw [hattests.challengeId]
    exact (hgone.not_answered htoken (hbefore.perform now call) (List.singleton_sublist.1 hrest)
      ht).symm
  · -- the identifier is drawn from `b` on and not pending after `s`, hence gone
    intro b s t c record hsteps hb hs ht
    obtain ⟨before, now, call, after, -, rfl, hrest⟩ := sublist_history hsteps
    have hbefore := consistent_final p before records
    have hbegun := hbefore.perform now call
    have hregisters : (stepOf p now call (final p before (start, records))).Registers c :=
      hb.elim id (registers_of_begins htoken hbefore)
    have hdrawn := hbegun.drawn_of_get? hregisters.2.2
    obtain ⟨between, now', call', after', -, rfl, hlast⟩ := sublist_history hrest
    have hmiddle := hbegun.final between
    have hgone : Gone p (perform p now' call' (final p between _)).2.1 c.id :=
      ⟨(hdrawn.final hbegun between).perform hmiddle now' call', get?_of_withdraws hs⟩
    exact hgone.not_answered htoken (hmiddle.perform now' call') (List.singleton_sublist.1 hlast) ht

/-- A challenge is begun and answered, answered once more, and another one is cancelled and then
answered. -/
theorem authentication_sound_sample :
    let p := samplePolicy 256 256 3600
    let calls := [(0, sampleIssue), (1000000, sampleSubmit 0), (2000000, sampleSubmit 0),
      (2000000, sampleIssue), (3000000, .cancel (sampleToken 1)), (4000000, sampleSubmit 1)]
    let steps := history p calls (start, .empty)
    ∃ record, (steps.map Step.reply)[1]? = some (.answered (.ok record)) ∧
      (∃ b ∈ steps.take 1, ∃ c, b.Begins c ∧
        Attests p 1000000 (fun _ => .ok ()) (sampleAnswer 0) c record) ∧
      ∀ t ∈ steps.drop 2, ∀ other, t.reply = .answered (.ok other) →
        record.challengeId ≠ other.challengeId := by
  intro p calls steps
  obtain ⟨hattests, honce, -⟩ := authentication_sound p sampleToken_injective calls .empty
  let s := stepOf p 1000000 (sampleSubmit 0) (final p (calls.take 1) (start, .empty))
  have hsteps : history p calls (start, .empty) = steps.take 1 ++ s :: steps.drop 2 := rfl
  obtain ⟨record, hrecord⟩ : ∃ record, s.reply = .answered (.ok record) := ⟨_, rfl⟩
  obtain ⟨b, hb, c, -, hbegins, hchecked⟩ := hattests _ s _ _ _ _ _ hsteps rfl hrecord
  have hname : b.call.isNameable p = true := by
    rw [List.mem_singleton.1 hb]
    rfl
  refine ⟨record, congrArg some hrecord, ⟨b, hb, c, hbegins hname, hchecked⟩, ?_⟩
  intro t ht other hother
  refine honce s t record other ?_ hrecord hother
  rw [hsteps]
  exact ((List.singleton_sublist.2 ht).cons_cons s).trans (List.sublist_append_right _ _)

end Session

end ComputeDirectory.Identity
