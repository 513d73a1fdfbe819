import ComputeDirectory.Crypto.Schnorr
import ComputeDirectory.Identity.Key
import ComputeDirectory.Identity.Challenge
import ComputeDirectory.Failure

/-!
# Verifying signed events

An event is accepted when its key is well formed, its signed fields have a digest, its identifier
(if it carries one) is that digest, its signature is well formed, its key is on the curve, and the
signature is valid for the digest under the key. The first of these conditions that fails is the one
that is reported. A digest is lacking only where an integer has too many digits to be written, or a
text holds half of a surrogate pair; that is a failure and no refusal.
-/

namespace ComputeDirectory.Identity

/-- A check of a signed event. -/
abbrev Verifier := SignedEvent → Except Failure Unit

/-- The octets of hexadecimal text; text that is none has no octets. -/
def octets (text : Text) : List UInt8 := (octets? text).getD []

/-- Checks the identifier and the signature of an event with this digest, whose key is well
formed. -/
def verifyDigest (e : SignedEvent) (digest : List UInt8) : Except SignatureFault Unit :=
  if e.id.isSome && e.id != some (SignedEvent.idOfDigest digest) then .error .idDiffers
  else if !isSignature e.signature then .error .malformedSignature
  else
    match Crypto.Schnorr.publicKey? (octets e.publicKey) with
    | none => .error .keyNotOnCurve
    | some point =>
      if Crypto.Schnorr.verify point (octets e.publicKey) digest (octets e.signature) then .ok ()
      else .error .invalidSignature

/-- Why an event has no digest: the signed fields are written out before they are turned into
octets. -/
def digestFailure (e : SignedEvent) : Failure :=
  if e.isShort then .undigestible e.serialized else .unwritable

/-- Checks the key, the identifier and the signature of an event. -/
def verifySignature (e : SignedEvent) : Except Failure Unit :=
  if !isKey e.publicKey then .error (.refused (.invalidIdentity e.publicKey))
  else
    match e.digest? with
    | none => .error (digestFailure e)
    | some digest =>
      (verifyDigest e digest).mapError fun fault => .refused (.signatureMismatch e.publicKey fault)

/-- The verifier of the directory. -/
def schnorrVerifier : Verifier := verifySignature

end ComputeDirectory.Identity
