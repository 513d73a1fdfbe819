import ComputeDirectory.Proofs.Identity.Session

/-!
# Answers as they are asked for

An event answers a challenge as it is asked for when it fills in the template of the challenge
(`Challenge.AnsweredBy`). The template, the search for tags and the checks of a session agree about
such an event: in time, and accepted by the verifier and the store, it is given a record
(`submit_of_answeredBy`).
-/

namespace ComputeDirectory.Identity

/-- An event fills in the template of a challenge: it has its kind, its tags stand in front, and it
is signed by the claimant. Its time, its content and further tags are free. -/
structure Challenge.AnsweredBy (c : Challenge) (e : SignedEvent) : Prop where
  kind : e.kind = c.template.kind
  tags : c.template.tags <+: e.tags
  publicKey : e.publicKey = c.claimantKey

namespace Challenge.AnsweredBy

variable {c : Challenge} {e : SignedEvent}

/-- Looking for the identifier passes over the tag of the server, which has another name. -/
theorem challengeId? (h : c.AnsweredBy e) : e.challengeId? = some c.id := by
  obtain ⟨more, htags⟩ := h.tags
  have hnames : serverKeyTag ≠ challengeTag := by decide
  rw [SignedEvent.challengeId?, ← htags]
  show tagValue? challengeTag ([serverKeyTag, c.serverKey] :: [challengeTag, c.id] :: more) = _
  rw [tagValue?, if_neg hnames, tagValue?, if_pos rfl]

theorem serverKey? (h : c.AnsweredBy e) : e.serverKey? = some c.serverKey := by
  obtain ⟨more, htags⟩ := h.tags
  rw [SignedEvent.serverKey?, ← htags]
  show tagValue? serverKeyTag ([serverKeyTag, c.serverKey] :: [challengeTag, c.id] :: more) = _
  rw [tagValue?, if_pos rfl]

theorem checkBinding (h : c.AnsweredBy e) : Session.checkBinding c e = .ok () := by
  have hkind : e.kind = authEventKind := h.kind
  rw [Session.checkBinding, h.serverKey?]
  simp [hkind, h.publicKey]

end Challenge.AnsweredBy

namespace Session

/-- The template of a challenge, filled in by its claimant. -/
def answerTo (c : Challenge) (signature : Text) : SignedEvent where
  id := none
  kind := c.template.kind
  createdAt := c.template.createdAt
  tags := c.template.tags
  content := c.template.content
  signature := signature
  publicKey := c.claimantKey

theorem answeredBy_answerTo (c : Challenge) (signature : Text) :
    c.AnsweredBy (answerTo c signature) :=
  ⟨rfl, List.prefix_refl _, rfl⟩

variable {σ : Type} {p : Policy}

/-- An answer as it is asked for, in time and accepted by the verifier, is judged to be
authenticated, unless the store fails. -/
theorem judge_of_answeredBy {c : Challenge} {e : SignedEvent} (hanswer : c.AnsweredBy e)
    {verify : Verifier} {store : RecordStore σ} {now : Moment} {t t' : σ} {second : Int}
    {verifiedAt : Timestamp} (hintime : second ≤ c.expiresAt) (hverify : verify e = .ok ())
    (hstamp : stamp now = .ok verifiedAt)
    (hsave : store.save (recordOf verifiedAt c e) t = (.ok (), t')) :
    judge (.ok second) verify store now c e t =
      (.ok (recordOf verifiedAt c e), t', .authenticated) := by
  have hlive : c.isExpired second = false := by simpa [Challenge.isExpired] using hintime
  have haccept : accept verify now c e = .ok verifiedAt := by
    rw [accept, hanswer.checkBinding, hverify, hstamp]
    rfl
  simp only [judge, hlive, haccept, hsave]
  rfl

/-- An answer as it is asked for to a pending challenge gives the record of the claimant. -/
theorem submit_of_answeredBy {s : Session} {c : Challenge} (hpending : s.issuer.get? c.id = some c)
    {e : SignedEvent} (hanswer : c.AnsweredBy e) {verify : Verifier} {store : RecordStore σ}
    {now : Moment} {t t' : σ} {second : Int} {verifiedAt : Timestamp}
    (hsecond : p.issuer.second now = .ok second) (hintime : second ≤ c.expiresAt)
    (hverify : verify e = .ok ()) (hstamp : stamp now = .ok verifiedAt)
    (hsave : store.save (recordOf verifiedAt c e) t = (.ok (), t')) :
    submit p verify store now e (s, t) =
      (.ok (recordOf verifiedAt c e), s.conclude c .authenticated, t') := by
  rw [submit_of_pending p verify store now t hanswer.challengeId? hpending, hsecond,
    judge_of_answeredBy hanswer hintime hverify hstamp hsave]

end Session

end ComputeDirectory.Identity
