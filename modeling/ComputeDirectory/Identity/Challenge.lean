import ComputeDirectory.Identity.Event

/-!
# Challenges and their outcomes

A challenge is issued to one claimant by one server and answered at most once, before it expires.
The state of a challenge says how far it has come; a verified answer leaves a record of the
identity.
-/

namespace ComputeDirectory.Identity

/-- A challenge that a claimant has to sign. -/
structure Challenge where
  id : Text
  serverKey : Text
  claimantKey : Text
  issuedAt : Int
  expiresAt : Int
  deriving DecidableEq, Repr

/-- Whether the challenge has expired; at the very second of its expiry it has not. -/
def Challenge.isExpired (c : Challenge) (now : Int) : Bool := c.expiresAt < now

/-- The event that the claimant is asked to sign. -/
def Challenge.template (c : Challenge) : EventTemplate where
  kind := authEventKind
  createdAt := c.issuedAt
  tags := [[serverKeyTag, c.serverKey], [challengeTag, c.id]]
  content := authEventContent

/-- How far a challenge has come. -/
inductive AuthState
  /-- Handed out to the claimant. -/
  | issued
  /-- An answer is being checked. -/
  | verifying
  /-- The answer was valid. -/
  | authenticated
  /-- The answer was refused. -/
  | rejected
  /-- The answer came after the expiry. -/
  | expired
  deriving DecidableEq, Repr

/-- Whether nothing can follow. -/
def AuthState.isTerminal : AuthState → Bool
  | authenticated | rejected | expired => true
  | issued | verifying => false

/-- The states by name. -/
def AuthState.names : List (String × AuthState) :=
  [("issued", .issued), ("verifying", .verifying), ("authenticated", .authenticated),
    ("rejected", .rejected), ("expired", .expired)]

/-- The name of a state. -/
def AuthState.name : AuthState → String
  | issued => "issued"
  | verifying => "verifying"
  | authenticated => "authenticated"
  | rejected => "rejected"
  | expired => "expired"

/-- The state of that name. -/
def AuthState.ofName? (name : String) : Option AuthState :=
  (AuthState.names.find? (·.1 = name)).map Prod.snd

theorem AuthState.ofName?_name (s : AuthState) : AuthState.ofName? s.name = some s := by
  cases s <;> decide

/-- How an identity was verified. -/
inductive AuthMethod
  /-- By a signature over an event that answers a challenge. -/
  | nostr
  deriving DecidableEq, Repr

/-- The name of a method. -/
def AuthMethod.name : AuthMethod → String
  | nostr => "nostr"

/-- The lasting record of a verified identity. -/
structure AuthRecord where
  identity : Text
  method : AuthMethod
  challengeId : Text
  verifiedAt : Timestamp
  deriving DecidableEq, Repr

/-- A request for a challenge. -/
structure ChallengeRequest where
  publicKey : Text
  lifetime : Option Int
  deriving DecidableEq, Repr

/-- A challenge together with the event to sign. -/
structure ChallengeResponse where
  challenge : Challenge
  event : EventTemplate
  deriving DecidableEq, Repr

/-! ## Reading and writing -/

open Schema

/-- A challenge must expire after it was issued. -/
def Challenge.checkWindow (c : Challenge) : Checked Challenge :=
  if c.expiresAt ≤ c.issuedAt then
    .fault (.inconsistent "expires_at must be later than issued_at")
  else .valid c

/-- Reads a challenge. -/
def Challenge.read (source : Source) : Reader Challenge :=
  .record source "AuthChallenge" fun m =>
    (Challenge.mk <$> MemberReader.required "challenge_id" .text m
      <*> MemberReader.required "server_public_key" .text m
      <*> MemberReader.required "claimant_public_key" .text m
      <*> MemberReader.required "issued_at" .integer m
      <*> MemberReader.required "expires_at" .integer m).andThen Challenge.checkWindow

/-- Writes a challenge. -/
def Challenge.toJson (c : Challenge) : Json :=
  .obj [("challenge_id", .str c.id), ("server_public_key", .str c.serverKey),
    ("claimant_public_key", .str c.claimantKey), ("issued_at", .int c.issuedAt),
    ("expires_at", .int c.expiresAt)]

/-- Reads a record; without a time it counts as verified now. -/
def AuthRecord.read (source : Source) (now : Moment) : Reader AuthRecord :=
  .record source "AuthRecord" fun m =>
    AuthRecord.mk <$> MemberReader.required "identity" .text m
      <*> MemberReader.defaulted "method" .nostr (.choice [("nostr", .nostr)]) m
      <*> MemberReader.required "challenge_id" .text m
      <*> MemberReader.stamped "verified_at" now m

/-- Writes a record. -/
def AuthRecord.toJson (r : AuthRecord) : Json :=
  .obj [("identity", .str r.identity), ("method", .str r.method.name),
    ("challenge_id", .str r.challengeId), ("verified_at", .str r.verifiedAt.render)]

/-- Reads a request for a challenge. -/
def ChallengeRequest.read (source : Source) : Reader ChallengeRequest :=
  .record source "ChallengeRequest" fun m =>
    ChallengeRequest.mk <$> MemberReader.required "public_key" .text m
      <*> MemberReader.optional "ttl_seconds" .integer m

/-- Writes a request for a challenge. -/
def ChallengeRequest.toJson (r : ChallengeRequest) : Json :=
  .obj [("public_key", .str r.publicKey), ("ttl_seconds", .ofInt? r.lifetime)]

/-- Reads a challenge with its event. -/
def ChallengeResponse.read (source : Source) : Reader ChallengeResponse :=
  .record source "ChallengeResponse" fun m =>
    ChallengeResponse.mk <$> MemberReader.required "challenge" (Challenge.read source) m
      <*> MemberReader.required "event" (EventTemplate.read source) m

/-- Writes a challenge with its event. -/
def ChallengeResponse.toJson (r : ChallengeResponse) : Json :=
  .obj [("challenge", r.challenge.toJson), ("event", r.event.toJson)]

end ComputeDirectory.Identity
