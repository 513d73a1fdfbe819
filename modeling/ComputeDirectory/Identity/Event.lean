import ComputeDirectory.Crypto.Sha256
import ComputeDirectory.Json.Printer
import ComputeDirectory.Schema.Reader

/-!
# Events

A claimant answers a challenge by signing an event. What is signed is the digest of the compact JSON
array `[0, key, creation time, kind, tags, content]`, so the text of that array decides which events
share a signature.
-/

namespace ComputeDirectory.Identity

/-- The kind that is reserved for answers to challenges. -/
def authEventKind : Int := 22242

/-- The content of an answer, unless the claimant writes another. -/
def authEventContent : Text := "Authenticate with Infernet Protocol"

/-- The name of the tag that carries the key of the server. -/
def serverKeyTag : Text := "p"

/-- The name of the tag that carries the identifier of the challenge. -/
def challengeTag : Text := "challenge"

/-- What a claimant is asked to sign. -/
structure EventTemplate where
  kind : Int
  createdAt : Int
  tags : List (List Text)
  content : Text
  deriving DecidableEq, Repr

/-- A signed answer to a challenge. -/
structure SignedEvent where
  /-- The digest of the signed text, if the claimant sends it along. -/
  id : Option Text
  kind : Int
  createdAt : Int
  tags : List (List Text)
  content : Text
  signature : Text
  publicKey : Text
  deriving DecidableEq, Repr

/-- The first value of the first tag of that name that has a value. -/
def tagValue? (name : Text) : List (List Text) → Option Text
  | [] => none
  | (first :: value :: _) :: rest => if first = name then some value else tagValue? name rest
  | _ :: rest => tagValue? name rest

namespace SignedEvent

/-- The identifier of the challenge that the event answers. -/
def challengeId? (e : SignedEvent) : Option Text := tagValue? challengeTag e.tags

/-- The key of the server that the event is meant for. -/
def serverKey? (e : SignedEvent) : Option Text := tagValue? serverKeyTag e.tags

/-- The signed fields as a JSON array. -/
def signedFields (e : SignedEvent) : Json :=
  .arr [.int 0, .str e.publicKey, .int e.createdAt, .int e.kind,
    .arr (e.tags.map fun tag => .arr (tag.map .str)), .str e.content]

/-- The text whose digest is signed. -/
def serialized (e : SignedEvent) : Text := e.signedFields.render

/-- Whether the integers among the signed fields can be written. -/
def isShort (e : SignedEvent) : Bool := Json.isShort e.createdAt && Json.isShort e.kind

/-- The octets of the digest that is signed; only a plain text with integers that can be written has
one. -/
def digest? (e : SignedEvent) : Option (List UInt8) :=
  if e.isShort then e.serialized.octets?.map Crypto.Sha256.digest else none

/-- The identifier of an event with this digest: the digest in hexadecimal. -/
def idOfDigest (digest : List UInt8) : Text := .ofChars (Text.hexOfOctets digest)

end SignedEvent

/-! ## Reading and writing -/

open Schema

/-- Reads a list of tags. -/
def readTags : Reader (List (List Text)) := .list (.list .text)

/-- Writes a list of tags. -/
def writeTags (tags : List (List Text)) : Json :=
  .arr (tags.map fun tag => .arr (tag.map .str))

/-- Reads a template; kind and content have defaults. -/
def EventTemplate.read (source : Source) : Reader EventTemplate :=
  .record source "UnsignedEvent" fun m =>
    EventTemplate.mk <$> MemberReader.defaulted "kind" authEventKind .integer m
      <*> MemberReader.required "created_at" .integer m
      <*> MemberReader.required "tags" readTags m
      <*> MemberReader.defaulted "content" authEventContent .text m

/-- Writes a template. -/
def EventTemplate.toJson (t : EventTemplate) : Json :=
  .obj [("kind", .int t.kind), ("created_at", .int t.createdAt), ("tags", writeTags t.tags),
    ("content", .str t.content)]

/-- Reads a signed event. Signature and key have a short name on the wire and a long one. -/
def SignedEvent.read (source : Source) : Reader SignedEvent :=
  .record source "SignedEvent" fun m =>
    SignedEvent.mk <$> MemberReader.optional "id" .text m
      <*> MemberReader.required "kind" .integer m
      <*> MemberReader.required "created_at" .integer m
      <*> MemberReader.defaulted "tags" [] readTags m
      <*> MemberReader.defaulted "content" "" .text m
      <*> MemberReader.requiredOr "sig" "signature" .text m
      <*> MemberReader.requiredOr "pubkey" "public_key" .text m

/-- Writes a signed event, with the short names of the wire or the long ones. -/
def SignedEvent.toJson (e : SignedEvent) (wireNames : Bool) : Json :=
  .obj [("id", .ofText? e.id), ("kind", .int e.kind), ("created_at", .int e.createdAt),
    ("tags", writeTags e.tags), ("content", .str e.content),
    (if wireNames then "sig" else "signature", .str e.signature),
    (if wireNames then "pubkey" else "public_key", .str e.publicKey)]

end ComputeDirectory.Identity
