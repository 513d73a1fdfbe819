import ComputeDirectory.Attempt
import ComputeDirectory.OrderedMap
import ComputeDirectory.Identity.Verifier

/-!
# The issuer of challenges

A challenge is pending from its issue until it is claimed, invalidated or swept. Claiming takes it
out of the pending challenges, so nobody can claim it twice, and leaves a marker with its expiry
among the consumed ones. Markers are kept for `retention` seconds past that expiry, which tells a
replay from an identifier that was never issued.

Sweeping drops what is no longer needed. It runs on demand, and by itself with every `sweepEvery`-th
challenge issued since the last sweep.

`register` and `sweep` work at a given second; `issue` and `sweepNow` read it off the clock. That
can fail, and then nothing is changed.

A challenge is registered before its lifetime is written to a log. A lifetime of too many digits
cannot be written, and ends the call there: the challenge stays registered, but it is not handed out,
and no sweep comes with it.
-/

namespace ComputeDirectory.Identity

/-- The settings of an issuer. -/
structure Issuer.Policy where
  /-- How many challenges are issued from one sweep to the next. -/
  sweepEvery : Int
  /-- How many seconds past its expiry a claimed challenge is remembered. -/
  retention : Int
  /-- The identifiers, in the order in which they are drawn. -/
  token : Nat → Text
  /-- The clock by which challenges are issued and expire. -/
  clock : SecondClock
  sweepEvery_pos : 1 ≤ sweepEvery
  retention_nonneg : 0 ≤ retention

/-- Pending challenges and consumed markers. -/
structure Issuer where
  /-- Challenges that wait for an answer, by identifier. -/
  pending : OrderedMap Text Challenge
  /-- The expiries of claimed challenges, by identifier. -/
  consumed : OrderedMap Text Int
  /-- How many challenges were issued since the last sweep. -/
  issuedSinceSweep : Nat
  /-- How many identifiers were drawn. -/
  drawn : Nat

namespace Issuer

/-- The settings, if the numbers make sense. -/
def Policy.make? (sweepEvery retention : Int) (token : Nat → Text) (clock : SecondClock) :
    Except Failure Policy :=
  if h : 1 ≤ sweepEvery ∧ 0 ≤ retention then .ok ⟨sweepEvery, retention, token, clock, h.1, h.2⟩
  else .error (.ofRefusal (.invalidConfiguration (.sweepPolicy sweepEvery retention)))

/-- The issuer before its first challenge. -/
def start : Issuer := ⟨.empty, .empty, 0, 0⟩

/-- Whether a consumed marker is no longer needed. -/
def isStale (p : Policy) (now expiresAt : Int) : Bool := expiresAt + p.retention < now

/-- Drops expired challenges and stale markers, and counts them. -/
def sweep (p : Policy) (now : Int) (s : Issuer) : Nat × Issuer :=
  let pending := s.pending.filter fun _ c => !c.isExpired now
  let consumed := s.consumed.filter fun _ expiresAt => !isStale p now expiresAt
  ((s.pending.size - pending.size) + (s.consumed.size - consumed.size),
    { s with pending, consumed, issuedSinceSweep := 0 })

/-- The second that the clock of the issuer shows. -/
def Policy.second (p : Policy) (now : Moment) : Except Failure Int :=
  (p.clock.read now).mapError .time

/-- Sweeps at the second that the clock shows. -/
def sweepNow (p : Policy) (now : Moment) : Attempt Failure Issuer Nat := do
  let second ← Attempt.ofExcept (p.second now)
  fun s =>
    let (removed, s) := s.sweep p second
    (.ok removed, s)

/-- Checks what a challenge is asked for with: its lifetime, the key of the server, then that of the
claimant. -/
def checkRequest (serverKey claimantKey : Text) (lifetime : Int) : Except Failure Unit :=
  if lifetime ≤ 0 then .error (.ofRefusal (.invalidConfiguration (.lifetime lifetime)))
  else if !isKey serverKey then .error (.refused (.invalidIdentity serverKey))
  else if !isKey claimantKey then .error (.refused (.invalidIdentity claimantKey))
  else .ok ()

/-- Draws an identifier and registers a new challenge under it, writes its lifetime to the log, then
sweeps if it is time to. -/
def register (p : Policy) (now : Int) (serverKey claimantKey : Text) (lifetime : Int) (s : Issuer) :
    Except Failure Challenge × Issuer :=
  let c : Challenge := ⟨p.token s.drawn, serverKey, claimantKey, now, now + lifetime⟩
  let t : Issuer :=
    { pending := s.pending.insert c.id c
      consumed := s.consumed
      issuedSinceSweep := s.issuedSinceSweep + 1
      drawn := s.drawn + 1 }
  if Json.isShort lifetime then
    (.ok c, if p.sweepEvery ≤ t.issuedSinceSweep then (t.sweep p now).2 else t)
  else (.error .unwritable, t)

/-- Issues a challenge. The clock is read, and an identifier drawn, only when the request is in
order. -/
def issue (p : Policy) (now : Moment) (serverKey claimantKey : Text) (lifetime : Int) :
    Attempt Failure Issuer Challenge := do
  Attempt.ofExcept (checkRequest serverKey claimantKey lifetime)
  let second ← Attempt.ofExcept (p.second now)
  fun s => s.register p second serverKey claimantKey lifetime

/-- The pending challenge of that identifier. -/
def get? (s : Issuer) (id : Text) : Option Challenge := s.pending.get? id

/-- Whether a challenge of that identifier was claimed and is still remembered. -/
def isConsumed (s : Issuer) (id : Text) : Bool := s.consumed.contains id

/-- Takes a pending challenge and remembers it as consumed. -/
def claim (id : Text) : Attempt Refusal Issuer Challenge := fun s =>
  match s.pending.get? id with
  | some c =>
    (.ok c, { s with pending := s.pending.erase id, consumed := s.consumed.insert id c.expiresAt })
  | none =>
    (.error (if s.isConsumed id then .challengeConsumed id else .unknownChallenge (some id)), s)

/-- Drops a pending challenge; other identifiers are ignored. -/
def invalidate (s : Issuer) (id : Text) : Issuer := { s with pending := s.pending.erase id }

/-- How many challenges are pending. -/
def pendingCount (s : Issuer) : Nat := s.pending.size

end Issuer

end ComputeDirectory.Identity
