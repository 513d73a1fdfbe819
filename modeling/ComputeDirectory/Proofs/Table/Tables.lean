import ComputeDirectory.Table.Client

/-!
# What a table service holds

`Tables` are the rows that a service holds of providers and of their changes of reputation. A
service hosts tables when a statement of the store of providers that it executes does what it says,
and a statement that it fails does nothing (`Backend.Hosts`). How often it fails is left open.

`hosted` is a service with tables in memory that fails when its state says so.
-/

namespace ComputeDirectory.Table

/-- The rows of providers, by identifier, and those of the changes of reputation, the oldest first.
-/
structure Tables where
  providers : OrderedMap Text Json
  /-- A row shows the identifier that it is filed under. -/
  id_of_get? : ∀ {id row}, providers.get? id = some row → row.get? "id" = some (.str id)
  history : List Json

namespace Tables

/-- No rows. -/
def empty : Tables := ⟨.empty, fun h => absurd h (by simp), []⟩

/-- Inserts a row of a provider, or replaces the one with its identifier. -/
def upsert (row : Json) (id : Text) (h : row.get? "id" = some (.str id)) (s : Tables) : Tables where
  providers := s.providers.insert id row
  id_of_get? := by
    intro id' row' hget
    rw [OrderedMap.get?_insert] at hget
    split at hget
    · next heq =>
      cases hget
      rw [heq, h]
    · exact s.id_of_get? hget
  history := s.history

/-- Inserts a row of a change. -/
def enter (row : Json) (s : Tables) : Tables := { s with history := s.history ++ [row] }

end Tables

/-- A service holds tables: what it executes is done, and what fails is not. -/
structure Backend.Hosts {τ : Type} (b : Backend τ) (tables : τ → Tables) : Prop where
  fails : ∀ {statement t message t'}, b.execute statement t = (.error message, t') →
    tables t' = tables t
  finds : ∀ {id t rows t'},
    b.execute (.select "providers" "*" (some ("id", id)) none none) t = (.ok rows, t') →
      rows = ((tables t).providers.get? id).toList ∧ tables t' = tables t
  upserts : ∀ {row id t rows t'} (h : row.get? "id" = some (.str id)),
    b.execute (.upsert "providers" row none) t = (.ok rows, t') →
      tables t' = (tables t).upsert row id h
  inserts : ∀ {row t rows t'}, b.execute (.insert "reputation_history" row) t = (.ok rows, t') →
    tables t' = (tables t).enter row

/-! ## Tables in memory -/

/-- The state of a service with tables in memory. -/
structure Hosted where
  tables : Tables
  /-- The messages with which the next statements fail; those without one are executed. -/
  failures : List (Option Text)

/-- Executes a statement on tables; one that is none of these finds nothing. -/
def Tables.execute (s : Tables) : Statement → List Json × Tables
  | .select "providers" _ (some ("id", id)) _ _ => ((s.providers.get? id).toList, s)
  | .upsert "providers" row _ =>
    match h : row.get? "id" with
    | some (.str id) => ([row], s.upsert row id h)
    | _ => ([], s)
  | .insert "reputation_history" row => ([row], s.enter row)
  | _ => ([], s)

/-- A service with tables in memory. Its stopwatch stands still. -/
def hosted : Backend Hosted where
  execute statement := fun s =>
    match s.failures.head?.join with
    | some message => (.error message, { s with failures := s.failures.drop 1 })
    | none =>
      (.ok (s.tables.execute statement).1,
        ⟨(s.tables.execute statement).2, s.failures.drop 1⟩)
  stopwatch s := (.zero, s)

theorem hosted_execute_none (s : Tables) (failures : List (Option Text)) (statement : Statement) :
    hosted.execute statement ⟨s, none :: failures⟩ =
      (.ok (s.execute statement).1, ⟨(s.execute statement).2, failures⟩) :=
  rfl

theorem hosted_execute_some (s : Tables) (message : Text) (failures : List (Option Text))
    (statement : Statement) :
    hosted.execute statement ⟨s, some message :: failures⟩ = (.error message, ⟨s, failures⟩) :=
  rfl

theorem hosted_hosts : hosted.Hosts Hosted.tables := by
  have hexecute : ∀ {statement s rows t}, hosted.execute statement s = (.ok rows, t) →
      rows = (s.tables.execute statement).1 ∧ t.tables = (s.tables.execute statement).2 := by
    intro statement s rows t h
    simp only [hosted] at h
    split at h
    · cases h
    · cases h
      exact ⟨rfl, rfl⟩
  refine ⟨?_, ?_, ?_, ?_⟩
  · intro statement s message t h
    simp only [hosted] at h
    split at h
    · cases h
      rfl
    · cases h
  · intro id s rows t h
    exact hexecute h
  · intro row id s rows t hid h
    rw [(hexecute h).2]
    simp only [Tables.execute]
    split
    · next id' hid' =>
      rw [hid] at hid'
      cases hid'
      rfl
    · next hnone => exact absurd hid (hnone id)
  · intro row s rows t h
    exact (hexecute h).2

end ComputeDirectory.Table
