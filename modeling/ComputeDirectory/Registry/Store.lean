import ComputeDirectory.Attempt
import ComputeDirectory.Failure
import ComputeDirectory.OrderedMap
import ComputeDirectory.Provider.Query

/-!
# Stores of providers

The registry works on any store with the six operations of `ProviderStore`. `Shelf` is the store in
memory: records in the order of their first saving, and one list of all changes of reputation, the
oldest first. Erasing a provider keeps the changes that were recorded for it.
-/

namespace ComputeDirectory.Registry

open Provider (Record ReputationChange)

/-- A store of providers whose state is a `σ`. -/
structure ProviderStore (σ : Type) where
  /-- Inserts or replaces the record of a provider. -/
  save : Record → Attempt Failure σ Unit
  /-- The record of a provider, if there is one. -/
  find? : Text → Attempt Failure σ (Option Record)
  /-- Removes the record of a provider, and says whether there was one. -/
  erase : Text → Attempt Failure σ Bool
  /-- All records, in order of registration. -/
  all : Attempt Failure σ (List Record)
  /-- Adds a change of reputation to the history. -/
  append : ReputationChange → Attempt Failure σ Unit
  /-- The changes of one provider, the oldest first. -/
  history : Text → Attempt Failure σ (List ReputationChange)

/-- Providers and changes of reputation in memory. -/
structure Shelf where
  providers : OrderedMap Text Record
  changes : List ReputationChange

/-- The shelf before the first registration. -/
def Shelf.empty : Shelf := ⟨.empty, []⟩

/-- The changes of one provider, the oldest first. -/
def Shelf.history (s : Shelf) (id : Text) : List ReputationChange :=
  s.changes.filter fun c => c.providerId = id

/-- The store in memory; it never fails. -/
def shelfStore : ProviderStore Shelf where
  save r := .modify fun s => { s with providers := s.providers.insert r.id r }
  find? id := fun s => (.ok (s.providers.get? id), s)
  erase id := fun s =>
    (.ok (s.providers.contains id), { s with providers := s.providers.erase id })
  all := fun s => (.ok s.providers.values, s)
  append c := .modify fun s => { s with changes := s.changes ++ [c] }
  history id := fun s => (.ok (s.history id), s)

end ComputeDirectory.Registry
