import ComputeDirectory.Crypto.Secp256k1
import ComputeDirectory.Crypto.Sha256

/-!
# Schnorr signatures over secp256k1 (BIP-340)

A public key is the first coordinate of a point whose second coordinate is even. A signature
`(r, s)` of a message is valid for the key `P` when the point `s • G - e • P`, with `e` the tagged
hash of `r`, `P` and the message, has the first coordinate `r` and an even second one.
-/

namespace ComputeDirectory.Crypto.Schnorr

open Secp256k1

/-- The number that octets stand for, the most significant first. -/
def natOfOctets (octets : List UInt8) : Nat := octets.foldl (fun n b => 256 * n + b.toNat) 0

/-- The public key of 32 octets, if they name a point of the curve. -/
def publicKey? (key : List UInt8) : Option Point := liftX? (natOfOctets key)

/-- The hash of a message under a tag: the digest of the tag stands twice before the message. -/
def taggedHash (tag : String) (message : List UInt8) : List UInt8 :=
  let prelude := Sha256.digest tag.toUTF8.toList
  Sha256.digest (prelude ++ prelude ++ message)

/-- The challenge that binds a signature to its nonce, key and message. -/
def challenge (nonce key message : List UInt8) : Nat :=
  natOfOctets (taggedHash "BIP0340/challenge" (nonce ++ key ++ message)) % groupOrder

/-- Whether a signature of 64 octets is valid for a message under the key at `point`. -/
def verify (point : Point) (key message signature : List UInt8) : Bool :=
  let nonce := signature.take 32
  let r := natOfOctets nonce
  let s := natOfOctets (signature.drop 32)
  if fieldPrime ≤ r ∨ groupOrder ≤ s then false
  else
    let e := challenge nonce key message
    match (combine s generator (groupOrder - e) point).affine? with
    | none => false
    | some p => p.y % 2 = 0 ∧ p.x = r

end ComputeDirectory.Crypto.Schnorr
