import ComputeDirectory.Identity.Issuer
import ComputeDirectory.Identity.RecordStore

/-!
# Authentication sessions

A session takes each challenge from its issue through the check of an answer to one of three ends:
authenticated, rejected or expired. The answer claims the challenge before anything else is checked,
so whatever the outcome a second answer to the same challenge is refused.

States of challenges that are neither pending nor remembered as consumed are of no further use. They
are forgotten with every explicit sweep, and by the session itself with every `sweepEvery`-th
challenge begun since the last time.
-/

namespace ComputeDirectory.Identity

/-- The settings of a session. -/
structure Session.Policy where
  /-- The key that challenges are bound to. -/
  serverKey : Text
  /-- The lifetime of a challenge, in seconds, when the claimant asks for none. -/
  defaultLifetime : Int
  /-- How many challenges are begun from one forgetting to the next. -/
  sweepEvery : Int
  /-- The settings of the issuer. -/
  issuer : Issuer.Policy

/-- What a session keeps. The records of verified identities lie in a store of their own. -/
structure Session where
  issuer : Issuer
  /-- How far each challenge has come. -/
  states : OrderedMap Text AuthState
  /-- How many challenges were begun since states were last forgotten. -/
  begunSinceSweep : Nat

namespace Session

/-- The session before its first challenge. -/
def start : Session := ⟨.start, .empty, 0⟩

/-- The state of a challenge, if it is known. -/
def state? (s : Session) (id : Text) : Option AuthState := s.states.get? id

/-- Records how far a challenge has come. -/
def setState (id : Text) (state : AuthState) (s : Session) : Session :=
  { s with states := s.states.insert id state }

/-- Forgets the states of challenges that are neither pending nor consumed. -/
def forgetUntracked (s : Session) : Session :=
  { s with
    states := s.states.filter fun id _ => (s.issuer.get? id).isSome || s.issuer.isConsumed id
    begunSinceSweep := 0 }

/-- Issues a challenge to a claimant. When the issuer fails, the session makes no entry, also for a
challenge that was registered by then. -/
def issue (p : Policy) (now : Moment) (claimantKey : Text) (lifetime : Option Int) :
    Attempt Failure Session Challenge := fun s =>
  match Issuer.issue p.issuer now p.serverKey claimantKey (lifetime.getD p.defaultLifetime)
      s.issuer with
  | (.error failure, issuer) => (.error failure, { s with issuer })
  | (.ok c, issuer) =>
    let t : Session :=
      { issuer
        states := s.states.insert c.id .issued
        begunSinceSweep := s.begunSinceSweep + 1 }
    (.ok c, if p.sweepEvery ≤ t.begunSinceSweep then t.forgetUntracked else t)

/-- Withdraws a challenge before it is answered. -/
def cancel (id : Text) (s : Session) : Session :=
  let t := { s with issuer := s.issuer.invalidate id }
  if t.state? id = some .issued then { t with states := t.states.erase id } else t

/-- Drops what the issuer no longer needs, and the states that nothing refers to; counts the former.
-/
def sweep (p : Policy) (now : Moment) : Attempt Failure Session Nat := fun s =>
  match Issuer.sweepNow p.issuer now s.issuer with
  | (.error failure, issuer) => (.error failure, { s with issuer })
  | (.ok removed, issuer) => (.ok removed, { s with issuer }.forgetUntracked)

/-! ## Answers -/

/-- Whether an event answers this challenge: its kind, then the server, then the claimant. -/
def checkBinding (c : Challenge) (e : SignedEvent) : Except Failure Unit :=
  if e.kind ≠ authEventKind then
    .error (.ofRefusal (.challengeMismatch c.id (.kindDiffers e.kind authEventKind)))
  else if e.serverKey? ≠ some c.serverKey then
    .error (.refused (.challengeMismatch c.id .serverKeyDiffers))
  else if e.publicKey ≠ c.claimantKey then
    .error (.refused (.challengeMismatch c.id .claimantKeyDiffers))
  else .ok ()

/-- Why an answer after the expiry fails: it is refused with the expiry and the second of the
answer. -/
def lateness (c : Challenge) (second : Int) : Failure :=
  .ofRefusal (.challengeExpired c.id c.expiresAt second)

/-- The record of a verified answer. -/
def recordOf (verifiedAt : Timestamp) (c : Challenge) (e : SignedEvent) : AuthRecord :=
  ⟨e.publicKey, .nostr, c.id, verifiedAt⟩

variable {σ : Type}

/-- Checks the answer to a challenge that was claimed, and saves the record of the identity. An
answer after the expiry is not looked at. -/
def checkAnswer (p : Policy) (verify : Verifier) (store : RecordStore σ) (now : Moment)
    (c : Challenge) (e : SignedEvent) : Attempt Failure (Session × σ) AuthRecord := do
  let second ← Attempt.ofExcept (p.issuer.second now)
  if c.isExpired second then
    Attempt.modify fun (s, t) => (s.setState c.id .expired, t)
    Attempt.fail (lateness c second)
  else
    Attempt.ofExcept (checkBinding c e)
    Attempt.ofExcept (verify e)
    let verifiedAt ← Attempt.ofExcept (stamp now)
    let record := recordOf verifiedAt c e
    (store.save record).within Prod.snd fun t (s, _) => (s, t)
    Attempt.modify fun (s, t) => (s.setState c.id .authenticated, t)
    return record

/-- Marks a challenge as rejected unless it has come to its end. -/
def rejectUnfinished (id : Text) (s : Session) : Session :=
  match s.state? id with
  | some state => if state.isTerminal then s else s.setState id .rejected
  | none => s.setState id .rejected

/-- Takes a signed event as the answer to the challenge that it names. A challenge that is still
tracked but can no longer be claimed, nor was claimed before, ends as rejected. -/
def submit (p : Policy) (verify : Verifier) (store : RecordStore σ) (now : Moment)
    (e : SignedEvent) : Attempt Failure (Session × σ) AuthRecord := fun (s, t) =>
  match e.challengeId? with
  | none => (.error (.refused (.unknownChallenge none)), s, t)
  | some id =>
    match Issuer.claim id s.issuer with
    | (.error (.unknownChallenge unknown), issuer) =>
      let s := { s with issuer }
      (.error (.refused (.unknownChallenge unknown)),
        if s.states.contains id then s.setState id .rejected else s, t)
    | (.error refusal, issuer) => (.error (.refused refusal), { s with issuer }, t)
    | (.ok c, issuer) =>
      (checkAnswer p verify store now c e).onFailure
        (fun (s, t) => (rejectUnfinished id s, t))
        ({ s with issuer }.setState id .verifying, t)

end Session

end ComputeDirectory.Identity
