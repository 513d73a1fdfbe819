import ComputeDirectory.Schema.Reader

/-!
# Providers

What the directory knows about a provider of computing power, what a provider sends to register, and
the changes of its reputation. Reputation runs from zero to one hundred; prices are never negative.
-/

namespace ComputeDirectory.Provider

/-- Whether a provider takes work. -/
inductive Status
  | available
  | busy
  | offline
  deriving DecidableEq, Repr

namespace Status

/-- The states by name. -/
def names : List (String × Status) :=
  [("available", .available), ("busy", .busy), ("offline", .offline)]

/-- The name of a state. -/
def name : Status → String
  | available => "available"
  | busy => "busy"
  | offline => "offline"

/-- The state of that name. -/
def ofName? (name : String) : Option Status := (names.find? (·.1 = name)).map Prod.snd

theorem ofName?_name (s : Status) : ofName? s.name = some s := by
  cases s <;> decide

end Status

/-- The hardware of a provider. -/
structure Capabilities where
  /-- Memory of the graphics card, in gigabytes. -/
  vram : Binary64
  cudaCores : Int
  gpuModel : Option Text
  /-- Megabits per second. -/
  bandwidth : Binary64
  deriving DecidableEq, Repr

/-- No hardware. -/
def Capabilities.none : Capabilities := ⟨.zero, 0, Option.none, .zero⟩

/-- The record of a provider. -/
structure Record where
  id : Text
  publicKey : Option Text
  endpoint : Option Text
  capabilities : Capabilities
  status : Status
  reputation : Binary64
  price : Binary64
  registeredAt : Timestamp
  lastSeen : Timestamp
  deriving DecidableEq, Repr

/-- What a provider sends to register. -/
structure Registration where
  id : Text
  publicKey : Option Text
  endpoint : Option Text
  capabilities : Capabilities
  price : Binary64
  reputation : Option Binary64
  deriving DecidableEq, Repr

/-- A request to change the status. -/
structure StatusUpdate where
  status : Status
  deriving DecidableEq, Repr

/-- A request to change the reputation. -/
structure ReputationDelta where
  delta : Binary64
  reason : Option Text
  jobId : Option Text
  deriving DecidableEq, Repr

/-- A change of reputation that was applied. -/
structure ReputationChange where
  providerId : Text
  oldScore : Binary64
  newScore : Binary64
  delta : Binary64
  reason : Option Text
  jobId : Option Text
  timestamp : Timestamp
  deriving DecidableEq, Repr

/-- One page of a listing of providers. -/
structure Page where
  items : List Record
  number : Int
  size : Int
  totalItems : Int
  totalPages : Int
  deriving DecidableEq, Repr

/-- Keeps a score between zero and one hundred. -/
def clampReputation (score : Binary64) : Binary64 := score.clamp .zero .hundred

/-! ## Reading and writing -/

open Schema

/-- Reads a status. -/
def Status.read : Reader Status := .choice Status.names

/-- Reads capabilities; what is absent is zero. -/
def Capabilities.read (source : Source) : Reader Capabilities :=
  .record source "ProviderCapabilities" fun m =>
    Capabilities.mk <$> MemberReader.defaulted "vram" .zero .number m
      <*> MemberReader.defaulted "cuda_cores" 0 .integer m
      <*> MemberReader.optional "gpu_model" .text m
      <*> MemberReader.defaulted "bandwidth" .zero .number m

/-- Writes capabilities. -/
def Capabilities.toJson (c : Capabilities) : Json :=
  .obj [("vram", .float c.vram), ("cuda_cores", .int c.cudaCores),
    ("gpu_model", .ofText? c.gpuModel), ("bandwidth", .float c.bandwidth)]

/-- The reputation of a record that names none. -/
def defaultReputation : Binary64 := .ofNat 50

/-- Reads the record of a provider; without times it counts as registered and seen now. -/
def Record.read (source : Source) (now : Moment) : Reader Record :=
  .record source "ProviderRecord" fun m =>
    Record.mk <$> MemberReader.required "id" .text m
      <*> MemberReader.optional "public_key" .text m
      <*> MemberReader.optional "endpoint" .text m
      <*> MemberReader.defaulted "capabilities" .none (Capabilities.read source) m
      <*> MemberReader.defaulted "status" .available Status.read m
      <*> MemberReader.defaulted "reputation" defaultReputation .percentage m
      <*> MemberReader.defaulted "price" .zero .nonNegative m
      <*> MemberReader.stamped "registered_at" now m
      <*> MemberReader.stamped "last_seen" now m

/-- Writes the record of a provider. -/
def Record.toJson (r : Record) : Json :=
  .obj [("id", .str r.id), ("public_key", .ofText? r.publicKey), ("endpoint", .ofText? r.endpoint),
    ("capabilities", r.capabilities.toJson), ("status", .str r.status.name),
    ("reputation", .float r.reputation), ("price", .float r.price),
    ("registered_at", .str r.registeredAt.render), ("last_seen", .str r.lastSeen.render)]

/-- Whether reading a registration draws a new identifier: it does when the registration is an
object without one. -/
def Registration.drawsId : Json → Bool
  | .obj members => (Json.member? "id" members).isNone
  | _ => false

/-- Reads a registration; `freshId` is used when it names no identifier. -/
def Registration.read (source : Source) (freshId : Text) : Reader Registration :=
  .record source "ProviderRegistration" fun m =>
    Registration.mk <$> MemberReader.defaulted "id" freshId .text m
      <*> MemberReader.optional "public_key" .text m
      <*> MemberReader.optional "endpoint" .text m
      <*> MemberReader.defaulted "capabilities" .none (Capabilities.read source) m
      <*> MemberReader.defaulted "price" .zero .nonNegative m
      <*> MemberReader.optional "reputation" .percentage m

/-- Writes a registration. -/
def Registration.toJson (r : Registration) : Json :=
  .obj [("id", .str r.id), ("public_key", .ofText? r.publicKey), ("endpoint", .ofText? r.endpoint),
    ("capabilities", r.capabilities.toJson), ("price", .float r.price),
    ("reputation", .ofFloat? r.reputation)]

/-- Reads a request to change the status. -/
def StatusUpdate.read (source : Source) : Reader StatusUpdate :=
  .record source "StatusUpdate" fun m =>
    StatusUpdate.mk <$> MemberReader.required "status" Status.read m

/-- Writes a request to change the status. -/
def StatusUpdate.toJson (u : StatusUpdate) : Json := .obj [("status", .str u.status.name)]

/-- Reads a request to change the reputation. -/
def ReputationDelta.read (source : Source) : Reader ReputationDelta :=
  .record source "ReputationDelta" fun m =>
    ReputationDelta.mk <$> MemberReader.required "delta" .number m
      <*> MemberReader.optional "reason" .text m
      <*> MemberReader.optional "job_id" .text m

/-- Writes a request to change the reputation. -/
def ReputationDelta.toJson (d : ReputationDelta) : Json :=
  .obj [("delta", .float d.delta), ("reason", .ofText? d.reason), ("job_id", .ofText? d.jobId)]

/-- Reads a change of reputation; without a time it counts as applied now. -/
def ReputationChange.read (source : Source) (now : Moment) : Reader ReputationChange :=
  .record source "ReputationChange" fun m =>
    ReputationChange.mk <$> MemberReader.required "provider_id" .text m
      <*> MemberReader.required "old_score" .number m
      <*> MemberReader.required "new_score" .number m
      <*> MemberReader.required "delta" .number m
      <*> MemberReader.optional "reason" .text m
      <*> MemberReader.optional "job_id" .text m
      <*> MemberReader.stamped "timestamp" now m

/-- Writes a change of reputation. -/
def ReputationChange.toJson (c : ReputationChange) : Json :=
  .obj [("provider_id", .str c.providerId), ("old_score", .float c.oldScore),
    ("new_score", .float c.newScore), ("delta", .float c.delta), ("reason", .ofText? c.reason),
    ("job_id", .ofText? c.jobId), ("timestamp", .str c.timestamp.render)]

/-- Reads a page. -/
def Page.read (source : Source) (now : Moment) : Reader Page :=
  .record source "Page" fun m =>
    Page.mk <$> MemberReader.required "items" (.list (Record.read source now)) m
      <*> MemberReader.required "page" .integer m
      <*> MemberReader.required "page_size" .integer m
      <*> MemberReader.required "total_items" .integer m
      <*> MemberReader.required "total_pages" .integer m

/-- Writes a page. -/
def Page.toJson (p : Page) : Json :=
  .obj [("items", .arr (p.items.map Record.toJson)), ("page", .int p.number),
    ("page_size", .int p.size), ("total_items", .int p.totalItems),
    ("total_pages", .int p.totalPages)]

end ComputeDirectory.Provider
