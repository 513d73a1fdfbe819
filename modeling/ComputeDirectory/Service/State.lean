import ComputeDirectory.Identity.Session
import ComputeDirectory.Registry.Basic
import ComputeDirectory.Settings
import ComputeDirectory.Table.Client

/-!
# The service and its parts

A deployment fixes what does not change while the service runs; the state holds what does. The parts
are put together on first use: the settings are read, the hosted table service is connected if it is
to be used, and the stores are those of the table service then, or those in memory. Settings that
cannot be read make every use fail, and so does a table service that cannot be connected.
-/

namespace ComputeDirectory.Service

/-- What does not change while the service runs. -/
structure Deployment (τ : Type) where
  environment : Settings.Environment
  /-- The hosted table service. -/
  backend : Table.Backend τ
  /-- What comes of creating a client of the hosted table service; it depends on nothing but the
  environment. -/
  connection : Except Failure Unit
  /-- Identifiers of challenges, in the order in which they are drawn. -/
  challengeToken : Nat → Text
  /-- Identifiers of providers that register without one, in the order in which they are drawn. -/
  providerToken : Nat → Text

/-- All stores: those in memory, and the hosted one. -/
structure Stores (τ : Type) where
  shelf : Registry.Shelf
  records : Identity.RecordShelf
  remote : τ

/-- What changes while the service runs. -/
structure State (τ : Type) where
  session : Identity.Session
  stores : Stores τ
  /-- How many identifiers of providers were drawn. -/
  providersDrawn : Nat
  /-- Whether the hosted table service was connected. -/
  connected : Bool

variable {σ τ : Type}

/-- The state before the first request. -/
def State.start (remote : τ) : State τ := ⟨.start, ⟨.empty, .empty, remote⟩, 0, false⟩

/-- A store of providers as part of a larger state. -/
def providersWithin (part : τ → σ) (replace : σ → τ → τ) (store : Registry.ProviderStore σ) :
    Registry.ProviderStore τ where
  save r := (store.save r).within part replace
  find? id := (store.find? id).within part replace
  erase id := (store.erase id).within part replace
  all := store.all.within part replace
  append c := (store.append c).within part replace
  history id := (store.history id).within part replace

/-- A store of authentication records as part of a larger state. -/
def recordsWithin (part : τ → σ) (replace : σ → τ → τ) (store : Identity.RecordStore σ) :
    Identity.RecordStore τ where
  save r := (store.save r).within part replace
  find? identity := (store.find? identity).within part replace

namespace Deployment

/-- The store of providers of a deployment with these settings. -/
def providerStore (d : Deployment τ) (s : Settings) (now : Moment) :
    Registry.ProviderStore (Stores τ) :=
  if s.usesTable then
    providersWithin Stores.remote (fun remote t => { t with remote })
      (Table.providerStore d.backend now)
  else providersWithin Stores.shelf (fun shelf t => { t with shelf }) Registry.shelfStore

/-- The store of authentication records of a deployment with these settings. -/
def recordStore (d : Deployment τ) (s : Settings) (now : Moment) :
    Identity.RecordStore (Stores τ) :=
  if s.usesTable then
    recordsWithin Stores.remote (fun remote t => { t with remote })
      (Table.recordStore d.backend now)
  else recordsWithin Stores.records (fun records t => { t with records }) Identity.shelfRecords

/-- The settings of the deployment. -/
def settings (d : Deployment τ) : Except Failure Settings :=
  (Settings.read d.environment).toExcept

/-- Connects the hosted table service, if it is to be used and is not connected yet. -/
def connect (d : Deployment τ) (s : Settings) : Attempt Failure (State τ) Unit := fun t =>
  if s.usesTable && !t.connected then
    match d.connection with
    | .ok () => (.ok (), { t with connected := true })
    | .error failure => (.error failure, t)
  else (.ok (), t)

/-- Puts the registry together. -/
def prepareRegistry (d : Deployment τ) : Attempt Failure (State τ) Settings := do
  let s ← Attempt.ofExcept d.settings
  d.connect s
  return s

/-- The settings of the session. -/
def sessionPolicy (d : Deployment τ) (s : Settings) : Except Failure Identity.Session.Policy :=
  let issuer :=
    Identity.Issuer.Policy.make? s.sweepEvery s.consumedRetention d.challengeToken .truncated
  issuer.map fun issuer => ⟨s.serverKey, s.challengeLifetime, s.sweepEvery, issuer⟩

/-- Puts the session together; its settings are checked before the table service is connected. -/
def prepareSession (d : Deployment τ) :
    Attempt Failure (State τ) (Settings × Identity.Session.Policy) := do
  let s ← Attempt.ofExcept d.settings
  let policy ← Attempt.ofExcept (d.sessionPolicy s)
  d.connect s
  return (s, policy)

/-- The settings of the registry. -/
def registryPolicy (s : Settings) : Registry.Policy := ⟨s.heartbeatTimeout, s.defaultReputation⟩

end Deployment

/-- Runs an attempt on the stores. -/
def onStores {α : Type} (x : Attempt Failure (Stores τ) α) : Attempt Failure (State τ) α :=
  x.within State.stores fun stores t => { t with stores }

/-- Runs an attempt on the session. -/
def onSession {α : Type} (x : Attempt Failure Identity.Session α) : Attempt Failure (State τ) α :=
  x.within State.session fun session t => { t with session }

/-- Runs an attempt on the session and the stores. -/
def onBoth {α : Type} (x : Attempt Failure (Identity.Session × Stores τ) α) :
    Attempt Failure (State τ) α :=
  x.within (fun t => (t.session, t.stores)) fun (session, stores) t => { t with session, stores }

end ComputeDirectory.Service
