import ComputeDirectory.Identity.RecordStore
import ComputeDirectory.Registry.Store
import ComputeDirectory.Table.Statement

/-!
# Stores in a hosted table service

The stores of providers and of authentication records over a table service. Records are written as
rows and read back with all checks, so a row that was tampered with is a failure and never a record.
Providers lie in one table, changes of reputation in a second, authentication records in a third,
the last one row for each identity.
-/

namespace ComputeDirectory.Table

open Identity (AuthRecord RecordStore)
open Provider (Record ReputationChange)
open Registry (ProviderStore)

variable {τ : Type}

/-- Executes a statement as part of a store. -/
def run (b : Backend τ) (statement : Statement) : Attempt Failure τ (List Json) :=
  (b.execute statement).mapError .outage

/-- Checks a row. -/
def checkRow {α : Type} (read : Schema.Reader α) (row : Json) : Except Failure α :=
  (read row).toExcept

/-- Checks the first row, if there is one. -/
def firstRow {α : Type} (read : Schema.Reader α) : List Json → Except Failure (Option α)
  | [] => .ok none
  | row :: _ => (checkRow read row).map some

/-- Checks rows up to the first that fails. -/
def allRows {α : Type} (read : Schema.Reader α) (rows : List Json) : Except Failure (List α) :=
  rows.mapM (checkRow read)

/-- The store of providers; rows without times count as written `now`. -/
def providerStore (b : Backend τ) (now : Moment) : ProviderStore τ where
  save r := do
    let _ ← run b (.upsert "providers" r.toJson none)
  find? id := do
    let rows ← run b (.select "providers" "*" (some ("id", id)) none none)
    Attempt.ofExcept (firstRow (Record.read .row now) rows)
  erase id := do
    let rows ← run b (.delete "providers" "id" id)
    return !rows.isEmpty
  all := do
    let rows ← run b (.select "providers" "*" none (some "registered_at") none)
    Attempt.ofExcept (allRows (Record.read .row now) rows)
  append c := do
    let _ ← run b (.insert "reputation_history" c.toJson)
  history id := do
    let rows ← run b
      (.select "reputation_history" "*" (some ("provider_id", id)) (some "timestamp") none)
    Attempt.ofExcept (allRows (ReputationChange.read .row now) rows)

/-- The store of authentication records. -/
def recordStore (b : Backend τ) (now : Moment) : RecordStore τ where
  save r := do
    let _ ← run b (.upsert "auth_records" r.toJson (some "identity"))
  find? identity := do
    let rows ← run b (.select "auth_records" "*" (some ("identity", identity)) none none)
    Attempt.ofExcept (firstRow (AuthRecord.read .row now) rows)

/-! ## Health -/

/-- Whether the service answers, and how fast. -/
structure Health where
  /-- What went wrong, if it does not answer. -/
  error : Option Text
  /-- The time between two readings of the stopwatch, in milliseconds with two places. -/
  latency : Binary64
  deriving DecidableEq, Repr

/-- Whether the service answers. -/
def Health.isHealthy (h : Health) : Bool := h.error.isNone

/-- Milliseconds between two readings, with two places. -/
def latencyOf (start stop : Binary64) : Binary64 := ((stop.sub start).scale 1000).roundPlaces 2

/-- Asks the service for one row and takes the time. A failure of the service is part of the answer.
-/
def checkHealth (b : Backend τ) (t : τ) : Health × τ :=
  let (start, t) := b.stopwatch t
  let (answer, t) := b.execute (.select "providers" "id" none none (some 1)) t
  let (stop, t) := b.stopwatch t
  let error := match answer with
    | .ok _ => none
    | .error message => some message
  (⟨error, latencyOf start stop⟩, t)

/-- Writes the health of the service. -/
def Health.toJson (h : Health) : Json :=
  .obj [("healthy", .bool h.isHealthy), ("latency_ms", .float h.latency),
    ("error", .ofText? h.error)]

end ComputeDirectory.Table
