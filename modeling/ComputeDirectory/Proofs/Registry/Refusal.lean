import ComputeDirectory.Proofs.Attempt
import ComputeDirectory.Proofs.OrderedMap
import ComputeDirectory.Registry.Basic

/-!
# Refused calls of a registry

A store is calm when looking at it changes nothing, and none of its own operations is refused; the
store in memory is calm, also as a part of a larger state. Over a calm store a call of the registry
that is refused leaves the store as it was, for every refusal comes from a check or a look-up that
stands before the first write. A removal that finds nothing leaves it alone, too.
-/

namespace ComputeDirectory.Registry

open Attempt (Quiet Avoids Spares)
open Provider (Record Registration ReputationChange Status Query)

variable {σ τ : Type}

/-! ## Calm stores -/

/-- Looking at the store changes nothing, and no operation of it is refused. -/
structure ProviderStore.IsCalm (store : ProviderStore σ) : Prop where
  find? : ∀ id, Quiet (store.find? id)
  all : Quiet store.all
  history : ∀ id, Quiet (store.history id)
  save : ∀ r, Avoids Failure.IsRefused (store.save r)
  append : ∀ c, Avoids Failure.IsRefused (store.append c)
  /-- A removal that finds nothing changes nothing. -/
  erase : ∀ id, Spares Failure.IsRefused (· = false) (store.erase id)

theorem shelfStore_isCalm : shelfStore.IsCalm where
  find? _ _ := rfl
  all _ := rfl
  history _ _ := rfl
  save := by
    rintro r s e ⟨⟩
  append := by
    rintro c s e ⟨⟩
  erase := by
    intro id s
    refine ⟨?_, ?_⟩
    · rintro e ⟨⟩
    · intro found hfound hnone
      cases hfound
      have hget : s.providers.get? id = none := by
        simpa only [OrderedMap.contains, Option.isSome_eq_false_iff, Option.isNone_iff_eq_none]
          using hnone
      show (⟨s.providers.erase id, s.changes⟩ : Shelf) = s
      rw [OrderedMap.erase_of_get? hget]

variable {store : ProviderStore σ}

/-! ## Calls that only look -/

theorem require_quiet (h : store.IsCalm) (id : Text) : Quiet (require store id) := by
  refine .bind (h.find? id) fun found => ?_
  cases found with
  | none => exact .fail _
  | some r => exact .pure r

theorem get_quiet (h : store.IsCalm) (id : Text) : Quiet (get store id) := require_quiet h id

theorem list_quiet (h : store.IsCalm) (number size : Int) (status : Option Status) :
    Quiet (list store number size status) := by
  unfold list
  split
  · exact .fail _
  · exact .bind h.all fun records => .pure _

theorem find_quiet (h : store.IsCalm) (q : Query) : Quiet (find store q) :=
  .bind h.all fun _ => .pure _

theorem stats_quiet (h : store.IsCalm) : Quiet (stats store) := .bind h.all fun _ => .pure _

theorem history_quiet (h : store.IsCalm) (id : Text) : Quiet (history store id) :=
  .bind (require_quiet h id) fun _ => h.history id

theorem discover_quiet (h : store.IsCalm) (defaultLimit : Option Int) (q : Query)
    (exclude : List Text) : Quiet (discover store defaultLimit q exclude) := by
  unfold discover
  split
  · exact .bind (find_quiet h q) fun _ => .pure _
  · exact .bind (find_quiet h _) fun _ => .pure _

/-! ## Calls that write -/

theorem register_spares (h : store.IsCalm) (p : Policy) (now : Moment) (r : Registration) :
    Spares Failure.IsRefused (fun _ => False) (register store p now r) := by
  refine .bind (h.find? r.id) fun found => ?_
  refine .bind (.ofExcept _) fun seen => ?_
  exact (Avoids.bind (h.save _) fun _ => .pure _).spares

theorem updateStatus_spares (h : store.IsCalm) (id : Text) (status : Status) :
    Spares Failure.IsRefused (fun _ => False) (updateStatus store id status) := by
  refine .bind (require_quiet h id) fun old => ?_
  exact (Avoids.bind (h.save _) fun _ => .pure _).spares

theorem heartbeat_spares (h : store.IsCalm) (now : Moment) (id : Text) (status : Option Status) :
    Spares Failure.IsRefused (fun _ => False) (heartbeat store now id status) := by
  refine .bind (require_quiet h id) fun old => ?_
  refine .bind (.ofExcept _) fun seen => ?_
  exact (Avoids.bind (h.save _) fun _ => .pure _).spares

theorem applyDelta_spares (h : store.IsCalm) (now : Moment) (id : Text) (delta : Binary64)
    (reason jobId : Option Text) :
    Spares Failure.IsRefused (fun _ => False) (applyDelta store now id delta reason jobId) := by
  unfold applyDelta
  split
  · exact (Quiet.fail _).spares _ _
  · refine .bind (require_quiet h id) fun old => ?_
    -- from the saving on, only the clock and the store can fail, and neither refuses
    refine (Avoids.bind (h.save _) fun _ => ?_).spares
    refine .bind (.ofExcept fun _ => not_isRefused_of_stamp) fun applied => ?_
    exact .bind (h.append _) fun _ => .pure _

end ComputeDirectory.Registry
