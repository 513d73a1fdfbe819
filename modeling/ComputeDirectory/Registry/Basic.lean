import ComputeDirectory.Registry.Store

/-!
# The registry of providers

Registration, signs of life, reputation and listings, over any store. Registering again refreshes
what a provider offers and keeps what it has earned: its reputation and its place in the order of
registration. A change of reputation is saved before it is entered in the history.

A provider is silent when its last sign of life, a registration or a heartbeat, came before the
heartbeat timeout; `markStale` takes silent providers offline.
-/

namespace ComputeDirectory.Registry

open Provider (Record Registration ReputationChange Status Query Page)

/-- The settings of a registry. -/
structure Policy where
  /-- Seconds after which a silent provider is taken offline. -/
  heartbeatTimeout : Int
  /-- The score of a new provider that brings none; it is kept between zero and one hundred. -/
  defaultReputation : Binary64
  deriving DecidableEq, Repr

/-- The record of a provider that registers for the first time. -/
def newRecord (p : Policy) (now : Timestamp) (r : Registration) : Record where
  id := r.id
  publicKey := r.publicKey
  endpoint := r.endpoint
  capabilities := r.capabilities
  status := .available
  reputation := r.reputation.getD (Provider.clampReputation p.defaultReputation)
  price := r.price
  registeredAt := now
  lastSeen := now

/-- The record of a provider that registers again. -/
def refreshed (now : Timestamp) (r : Registration) (old : Record) : Record :=
  { old with
    publicKey := r.publicKey
    endpoint := r.endpoint
    capabilities := r.capabilities
    price := r.price
    status := .available
    lastSeen := now }

variable {σ : Type}

/-- The record of a provider, which has to exist. -/
def require (store : ProviderStore σ) (id : Text) : Attempt Failure σ Record := do
  match ← store.find? id with
  | some r => return r
  | none => Attempt.fail (.refused (.providerNotFound id))

/-- Registers a provider, or refreshes its registration. -/
def register (store : ProviderStore σ) (p : Policy) (now : Moment) (r : Registration) :
    Attempt Failure σ Record := do
  let found ← store.find? r.id
  let seen ← Attempt.ofExcept (stamp now)
  let record :=
    match found with
    | some old => refreshed seen r old
    | none => newRecord p seen r
  store.save record
  return record

/-- Removes a provider, and says whether there was one. -/
def deregister (store : ProviderStore σ) (id : Text) : Attempt Failure σ Bool := store.erase id

/-- The record of a provider. -/
def get (store : ProviderStore σ) (id : Text) : Attempt Failure σ Record := require store id

/-- The providers of a status, or all. -/
def withStatus (status : Option Status) (records : List Record) : List Record :=
  records.filter fun r => Query.asks status (r.status == ·)

/-- The number of pages that a listing of `total` items needs, by binary64 division. -/
def pageCount (total : Nat) (size : Int) : Int :=
  ((Binary64.quotient total size.toNat).ceil?).getD 0

/-- One page of a listing; pages count from one. -/
def pageOf (records : List Record) (number size : Int) : Page where
  items := (records.drop ((number - 1) * size).toNat).take size.toNat
  number := number
  size := size
  totalItems := records.length
  totalPages := pageCount records.length size

/-- Lists the providers of a status, or all, in order of registration. -/
def list (store : ProviderStore σ) (number size : Int) (status : Option Status) :
    Attempt Failure σ Page := do
  if number < 1 ∨ size < 1 then
    Attempt.fail (.ofRefusal (.invalidConfiguration (.page number size)))
  else
    let records ← store.all
    return pageOf (withStatus status records) number size

/-- The providers that meet the requirements, the best first, as many as the query asks for. -/
def find (store : ProviderStore σ) (q : Query) : Attempt Failure σ (List Record) := do
  let records ← store.all
  return Provider.takeLimit q.limit (Query.ranked (records.filter q.admits))

/-- Replaces the status of a provider. -/
def updateStatus (store : ProviderStore σ) (id : Text) (status : Status) :
    Attempt Failure σ Record := do
  let old ← require store id
  let record := { old with status }
  store.save record
  return record

/-- Records a sign of life. A provider that was offline and names no status is available again. -/
def heartbeat (store : ProviderStore σ) (now : Moment) (id : Text) (status : Option Status) :
    Attempt Failure σ Record := do
  let old ← require store id
  let seen ← Attempt.ofExcept (stamp now)
  let record :=
    { old with
      lastSeen := seen
      status := status.getD (if old.status = .offline then .available else old.status) }
  store.save record
  return record

/-- Adds to the reputation of a provider, between zero and one hundred, and to its history. -/
def applyDelta (store : ProviderStore σ) (now : Moment) (id : Text) (delta : Binary64)
    (reason jobId : Option Text) : Attempt Failure σ Record := do
  if !delta.isFinite then
    Attempt.fail (.refused (.invalidConfiguration (.reputationDelta delta)))
  else
    let old ← require store id
    let record := { old with reputation := Provider.clampReputation (old.reputation.add delta) }
    store.save record
    let applied ← Attempt.ofExcept (stamp now)
    store.append ⟨id, old.reputation, record.reputation, delta, reason, jobId, applied⟩
    return record

/-- The changes of reputation of a provider, the oldest first. -/
def history (store : ProviderStore σ) (id : Text) :
    Attempt Failure σ (List ReputationChange) := do
  let _ ← require store id
  store.history id

/-! ## Silent providers -/

/-- The moment before which a sign of life is too old; it has to lie in the years 1 to 9999. -/
def cutoff (p : Policy) (now : Moment) : Except Moment.Fault Moment := do
  let now ← now.placed
  let timeout ← Moment.checkSpan (Moment.ofSeconds p.heartbeatTimeout)
  Moment.checkCalendar (now - timeout)

/-- Whether a provider that is not offline was last seen before a moment. -/
def isSilent (before : Moment) (r : Record) : Except Failure Bool :=
  if r.status = .offline then .ok false
  else
    match r.lastSeen.moment? with
    | some seen => .ok (seen < before)
    | none => .error .unknownOffset

/-- Takes a provider offline if it is silent both in the listing and in the store. -/
def markOne (store : ProviderStore σ) (before : Moment) (listed : Record) :
    Attempt Failure σ (Option Text) := do
  if !(← Attempt.ofExcept (isSilent before listed)) then return none
  match ← store.find? listed.id with
  | none => return none
  | some current =>
    if !(← Attempt.ofExcept (isSilent before current)) then return none
    store.save { current with status := .offline }
    return some current.id

/-- Takes the silent ones of some listed providers offline, and names them. -/
def markEach (store : ProviderStore σ) (before : Moment) :
    List Record → Attempt Failure σ (List Text)
  | [] => return []
  | listed :: rest => do
    let marked ← markOne store before listed
    let others ← markEach store before rest
    return marked.toList ++ others

/-- Takes the providers offline that are silent since a moment, and names them in order of
registration. -/
def markSilent (store : ProviderStore σ) (before : Moment) : Attempt Failure σ (List Text) := do
  let listed ← store.all
  markEach store before listed

/-- Takes the providers offline that are silent at the time that a clock shows, which is so many
microseconds ahead of UTC. It is on this clock that the cutoff has to lie in the calendar. -/
def markStaleAt (store : ProviderStore σ) (p : Policy) (shown : Moment) (ahead : Int) :
    Attempt Failure σ (List Text) := do
  let before ← Attempt.ofExcept ((cutoff p shown).mapError .time)
  markSilent store (before - ahead)

/-- Takes the providers offline that are silent at a moment. -/
def markStale (store : ProviderStore σ) (p : Policy) (now : Moment) :
    Attempt Failure σ (List Text) :=
  markStaleAt store p now 0

/-! ## Statistics -/

/-- How many providers there are, in all and by status. -/
structure Stats where
  total : Nat
  byStatus : List (Status × Nat)
  deriving DecidableEq, Repr

/-- Counts providers. -/
def Stats.of (records : List Record) : Stats where
  total := records.length
  byStatus := Status.names.map fun s => (s.2, records.countP fun r => r.status = s.2)

/-- Counts the providers of a store. -/
def stats (store : ProviderStore σ) : Attempt Failure σ Stats := do
  return Stats.of (← store.all)

/-- Writes statistics. -/
def Stats.toJson (s : Stats) : Json :=
  .obj [("total_providers", .int s.total),
    ("providers_by_status", .obj (s.byStatus.map fun c => (c.1.name, .int c.2)))]

/-! ## Discovery -/

/-- The providers that meet the requirements and are not excluded, the best first. The limit of the
query counts, else the default limit; exclusions are made before the list is cut. -/
def discover (store : ProviderStore σ) (defaultLimit : Option Int) (q : Query)
    (exclude : List Text) : Attempt Failure σ (List Record) := do
  let limit := q.limit.or defaultLimit
  if exclude.isEmpty then
    return Provider.takeLimit limit (← find store q)
  else
    let candidates ← find store { q with limit := none }
    return Provider.takeLimit limit (candidates.filter fun r => !exclude.contains r.id)

end ComputeDirectory.Registry
