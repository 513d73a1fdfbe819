import ComputeDirectory.Attempt
import ComputeDirectory.OrderedMap
import ComputeDirectory.Identity.Challenge
import ComputeDirectory.Failure

/-!
# Stores of authentication records

A session needs two operations of the store that keeps its records: saving a record, and finding the
record of an identity. `RecordShelf` keeps them in memory, the latest for each identity.
-/

namespace ComputeDirectory.Identity

/-- A store of authentication records whose state is a `σ`. -/
structure RecordStore (σ : Type) where
  save : AuthRecord → Attempt Failure σ Unit
  find? : Text → Attempt Failure σ (Option AuthRecord)

/-- Records in memory, by identity. -/
abbrev RecordShelf := OrderedMap Text AuthRecord

/-- The store in memory; it never fails. -/
def shelfRecords : RecordStore RecordShelf where
  save r := .modify fun shelf => shelf.insert r.identity r
  find? identity := fun shelf => (.ok (shelf.get? identity), shelf)

end ComputeDirectory.Identity
