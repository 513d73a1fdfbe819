import ComputeDirectory.Json.Literal

/-!
# Refusals

The causes for which the directory refuses what a client asks, and their wording. Keys and challenge
identifiers are shortened in messages; lengths count symbols. Some refusals spell out integers that a
client may have chosen, and an integer of too many digits cannot be written (`Refusal.numbers`).
-/

namespace ComputeDirectory

/-- What is wrong with a signed event, in the order in which it is checked. -/
inductive SignatureFault
  /-- The event carries an identifier that is not the digest of its content. -/
  | idDiffers
  /-- The signature is not written as 64 octets. -/
  | malformedSignature
  /-- The key is no first coordinate of a point of the curve. -/
  | keyNotOnCurve
  /-- The signature is not valid. -/
  | invalidSignature
  | other (reason : Text)
  deriving DecidableEq, Repr

/-- How an event fails to answer a challenge, in the order in which it is checked. -/
inductive BindingFault
  | kindDiffers (found expected : Int)
  | serverKeyDiffers
  | claimantKeyDiffers
  | other (reason : Text)
  deriving DecidableEq, Repr

/-- An argument or setting without meaning. -/
inductive ConfigurationFault
  | sweepPolicy (sweepEvery retention : Int)
  | lifetime (seconds : Int)
  | page (number size : Int)
  | reputationDelta (delta : Binary64)
  | other (message : Text)
  deriving DecidableEq, Repr

/-- Why the directory refuses a request. -/
inductive Refusal
  | invalidIdentity (key : Text)
  | signatureMismatch (key : Text) (fault : SignatureFault)
  | unknownChallenge (id : Option Text)
  | challengeExpired (id : Text) (expiresAt now : Int)
  | challengeMismatch (id : Text) (fault : BindingFault)
  | challengeConsumed (id : Text)
  | providerNotFound (id : Text)
  | invalidConfiguration (fault : ConfigurationFault)
  | other (message : Text)
  deriving DecidableEq, Repr

/-- The fault in words. -/
def SignatureFault.reason : SignatureFault → Text
  | .idDiffers => "event id does not match content"
  | .malformedSignature => "signature is not 64 hex-encoded bytes"
  | .keyNotOnCurve => "public key is not a curve point"
  | .invalidSignature => "signature does not verify"
  | .other reason => reason

/-- The fault in words. -/
def BindingFault.reason : BindingFault → Text
  | .kindDiffers found expected => s!"event kind {found} is not {expected}"
  | .serverKeyDiffers => "server key tag differs"
  | .claimantKeyDiffers => "claimant key differs"
  | .other reason => reason

/-- The fault in words. -/
def ConfigurationFault.message : ConfigurationFault → Text
  | .sweepPolicy every retention =>
    "sweep_every must be positive and consumed_retention non-negative, " ++
      s!"got {every} and {retention}"
  | .lifetime seconds => s!"ttl_seconds must be positive, got {seconds}"
  | .page number size => s!"page and page_size must be positive, got page={number} page_size={size}"
  | .reputationDelta delta => s!"reputation delta must be finite, got {delta.render}"
  | .other message => message

namespace Refusal

/-- A refusal without a cause of its own, described by some values. -/
def ofDetails (details : List Json) : Refusal := other (Json.describe details)

/-- The first eight symbols. -/
def shortened (text : Text) : Text := text.take 8

/-- A key as messages show it: longer keys are cut and marked. -/
def shownKey (key : Text) : Text := if 8 < key.length then shortened key ++ "..." else key

/-- The wording of a refusal. -/
def message : Refusal → Text
  | invalidIdentity key =>
    "Invalid identity key: " ++ (shownKey key).quoted ++ s!" (len={key.length})"
  | signatureMismatch key fault =>
    "Signature mismatch for " ++ shortened key ++ "...: " ++ fault.reason
  | unknownChallenge none => "Unknown challenge: None"
  | unknownChallenge (some id) => "Unknown challenge: " ++ id
  | challengeExpired id expiresAt now =>
    "Challenge " ++ shortened id ++ s!"... expired at {expiresAt} (now={now})"
  | challengeMismatch id fault => "Challenge " ++ shortened id ++ "... mismatch: " ++ fault.reason
  | challengeConsumed id => "Challenge " ++ shortened id ++ "... already consumed"
  | providerNotFound id => "Provider " ++ id ++ " not found"
  | invalidConfiguration fault => fault.message
  | other message => message

/-- The integers that the wording of a refusal spells out, whatever their size. -/
def numbers : Refusal → List Int
  | challengeExpired _ expiresAt now => [expiresAt, now]
  | challengeMismatch _ (.kindDiffers found expected) => [found, expected]
  | invalidConfiguration (.sweepPolicy every retention) => [every, retention]
  | invalidConfiguration (.lifetime seconds) => [seconds]
  | invalidConfiguration (.page number size) => [number, size]
  | _ => []

end Refusal

end ComputeDirectory
