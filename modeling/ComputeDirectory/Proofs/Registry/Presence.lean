import ComputeDirectory.Proofs.Registry.Interchange
import ComputeDirectory.Proofs.Registry.Refusal

/-!
# Signs of life

A registration and a heartbeat are signs of life of a provider, and nothing else is. In memory, the
time at which a registered provider was last seen is the moment of its latest sign of life in the run
(`moment?_lastSeen_final`), however often it was removed and came back, and whether or not the clock
went back.

What a call can do to the times of a provider is a `Sighting`: it is told from the share of the
provider (`Call.share_sighting`) and carried through the run. Operations that only read leave no
trace, so a run of operations leaves what the calls among them leave (`shelfAfter_eq_final`).
-/

namespace ComputeDirectory.Registry

open Provider (Record)

/-! ## Runs of operations -/

/-- The call of an operation that may write. -/
def Operation.call? : Operation → Option Call
  | .call c => some c
  | .get _ | .list _ _ _ | .find _ | .history _ | .stats => none

/-- The calls among some operations, each with its moment. -/
def callsOf (operations : List (Moment × Operation)) : List (Moment × Call) :=
  operations.filterMap fun input => input.2.call?.map (Prod.mk input.1)

/-- The shelf after some operations on an empty one. -/
def shelfAfter (p : Policy) (operations : List (Moment × Operation)) : Shelf :=
  Run.final (fun input => answer shelfStore p input.1 input.2) operations .empty

/-- What the calls among some operations did to an empty shelf, the oldest first. -/
def pastOf (p : Policy) (operations : List (Moment × Operation)) : List (Step Shelf) :=
  steps p (fun _ => shelfStore) (callsOf operations) .empty

/-- An operation leaves what its call leaves, and without a call it leaves what was there. -/
theorem answer_shelf (p : Policy) (now : Moment) (operation : Operation) (s : Shelf) :
    (answer shelfStore p now operation s).2 =
      (operation.call?.map fun call => (perform shelfStore p now call s).2).getD s := by
  cases operation with
  | call call => exact congrArg Prod.snd (Attempt.map_apply Answer.reply _ s)
  | get id => exact ((get_quiet shelfStore_isCalm id).map Answer.record) s
  | list number size status =>
    exact ((list_quiet shelfStore_isCalm number size status).map Answer.page) s
  | find q => exact ((find_quiet shelfStore_isCalm q).map Answer.records) s
  | history id => exact ((history_quiet shelfStore_isCalm id).map Answer.changes) s
  | stats => exact ((stats_quiet shelfStore_isCalm).map Answer.stats) s

theorem shelfAfter_eq_final (p : Policy) (operations : List (Moment × Operation)) :
    shelfAfter p operations = final p (fun _ => shelfStore) (callsOf operations) .empty := by
  rw [shelfAfter]
  -- on the operations, with the shelf left free
  generalize Shelf.empty = s
  induction operations generalizing s with
  | nil => rfl
  | cons first operations ih =>
    obtain ⟨now, operation⟩ := first
    refine (ih _).trans ?_
    rw [answer_shelf, callsOf, callsOf, List.filterMap_cons]
    cases operation.call? with
    | none => rfl
    | some call => rfl

/-! ## Signs of life -/

/-- Whether a call is a sign of life of a provider, if it succeeds. -/
def Call.isSign (id : Text) : Call → Bool
  | .register r => r.id = id
  | .heartbeat target _ => target = id
  | .deregister _ | .updateStatus _ _ | .applyDelta _ _ _ _ | .markStale _ => false

/-- Whether a step was a sign of life of a provider. -/
def Step.isSign (id : Text) (step : Step Shelf) : Bool := step.call.isSign id && step.outcome.isOk

/-- The moment of the latest sign of life of a provider. -/
def lastSign? (id : Text) (past : List (Step Shelf)) : Option Moment :=
  (past.filter (Step.isSign id)).getLast?.map Step.now

theorem lastSign?_concat (id : Text) (past : List (Step Shelf)) (step : Step Shelf) :
    lastSign? id (past ++ [step]) =
      if step.isSign id then some step.now else lastSign? id past := by
  rw [lastSign?, List.filter_append, List.filter_singleton]
  cases step.isSign id with
  | false => rw [cond_false, List.append_nil, if_neg Bool.false_ne_true, lastSign?]
  | true => rw [cond_true, List.getLast?_concat, if_pos rfl, Option.map_some]

theorem Call.isSign_eq_false_of_not_concerns {id : Text} {call : Call}
    (h : call.concerns id = false) : call.isSign id = false := by
  cases call with
  | register r => exact h
  | heartbeat target status => exact h
  | deregister target => rfl
  | updateStatus target status => rfl
  | applyDelta target delta reason jobId => rfl
  | markStale given => rfl

/-! ## What a call does to the times of a provider -/

/-- What becomes of the times of a provider at some moment, by whether it gave a sign of life, and by
its record before and after. -/
inductive Sighting (now : Moment) : Bool → Option Record → Option Record → Prop
  | absent {sign : Bool} {found : Option Record} : Sighting now sign found none
  | kept {old r : Record} (registered : r.registeredAt = old.registeredAt)
      (seen : r.lastSeen = old.lastSeen) : Sighting now false (some old) (some r)
  | seen {old r : Record} (registered : r.registeredAt = old.registeredAt)
      (seen : stamp now = .ok r.lastSeen) : Sighting now true (some old) (some r)
  | created {r : Record} (registered : stamp now = .ok r.registeredAt)
      (seen : stamp now = .ok r.lastSeen) : Sighting now true none (some r)

namespace Sighting

variable {now : Moment} {sign : Bool} {found left : Option Record}

theorem unchanged (found : Option Record) : Sighting now false found found := by
  cases found with
  | none => exact .absent
  | some old => exact .kept rfl rfl

theorem moment?_lastSeen (h : Sighting now sign found left) {last : Option Moment}
    (hfound : ∀ old, found = some old → old.lastSeen.moment? = last) (r : Record)
    (hleft : left = some r) : r.lastSeen.moment? = if sign then some now else last := by
  cases h with
  | absent => cases hleft
  | kept hregistered hseen =>
    cases hleft
    rw [hseen]
    exact hfound _ rfl
  | seen hregistered hseen =>
    cases hleft
    rw [(stamp_eq_ok_iff.1 hseen).1]
    exact Timestamp.moment?_utc now
  | created hregistered hseen =>
    cases hleft
    rw [(stamp_eq_ok_iff.1 hseen).1]
    exact Timestamp.moment?_utc now

theorem registeredAt_eq {old r : Record} (h : Sighting now sign (some old) (some r)) :
    r.registeredAt = old.registeredAt := by
  cases h with
  | kept hregistered hseen => exact hregistered
  | seen hregistered hseen => exact hregistered

theorem stamp_registeredAt {r : Record} (h : Sighting now sign none (some r)) :
    stamp now = .ok r.registeredAt := by
  cases h with
  | created hregistered hseen => exact hregistered

end Sighting

section

variable (p : Policy) (now : Moment) {call : Call} {id : Text} {s : Shelf}

/-- The share of a provider keeps the time of its registration, and tells that it was seen now if the
call is a sign of life. -/
theorem Call.share_sighting (hcall : call.concerns id = true) (found : Option Record) :
    Sighting now (call.isSign id && (call.share p now id found).outcome.isOk) found
      (call.share p now id found).record? := by
  cases call with
  | register r =>
    have hsign : Call.isSign id (.register r) = true := hcall
    rw [hsign, Bool.true_and, Call.share]
    cases hstamp : stamp now with
    | error f => exact .unchanged found
    | ok seen =>
      cases found with
      | none => exact .created hstamp hstamp
      | some old => exact .seen rfl hstamp
  | deregister target => exact .absent
  | updateStatus target status =>
    cases found with
    | none => exact .absent
    | some old => exact .kept rfl rfl
  | heartbeat target status =>
    have hsign : Call.isSign id (.heartbeat target status) = true := hcall
    rw [hsign, Bool.true_and, Call.share]
    cases found with
    | none => exact .absent
    | some old =>
      rw [Share.required]
      cases hstamp : stamp now with
      | error f => exact .unchanged (some old)
      | ok seen => exact .seen rfl hstamp
  | applyDelta target delta reason jobId =>
    rw [Call.isSign, Bool.false_and, Call.share]
    split
    · cases found with
      | none => exact .absent
      | some old =>
        rw [Share.required]
        cases stamp now with
        | error f => exact .kept rfl rfl
        | ok applied => exact .kept rfl rfl
    · exact .unchanged found
  | markStale given =>
    rw [Call.isSign, Bool.false_and, Call.share]
    cases soughtSince p now given with
    | error fault => exact .unchanged found
    | ok before =>
      cases found with
      | none => exact .absent
      | some old => exact .kept (settled_registeredAt before old) (settled_lastSeen before old)

/-- Every step is a sighting of every provider. -/
theorem stepOf_sighting (hs : s.IsTidy) (call : Call) (id : Text) :
    Sighting now ((stepOf p shelfStore now call s).isSign id) (s.providers.get? id)
      ((perform shelfStore p now call s).2.providers.get? id) := by
  cases hcall : call.concerns id with
  | false =>
    have hsign : (stepOf p shelfStore now call s).isSign id = false := by
      rw [stepOf, Step.isSign, Call.isSign_eq_false_of_not_concerns hcall, Bool.false_and]
    rw [hsign, (perform_of_not_concerns p now hcall hs).1]
    exact .unchanged _
  | true =>
    obtain ⟨houtcome, hrecord, -⟩ := perform_share p now hcall hs
    have hok : (perform shelfStore p now call s).1.isOk =
        (call.share p now id (s.providers.get? id)).outcome.isOk := by
      rw [← houtcome]
      cases (perform shelfStore p now call s).1 <;> rfl
    have hshare := call.share_sighting p now hcall (s.providers.get? id)
    rw [← hok, ← hrecord] at hshare
    exact hshare

end

/-! ## Main statement -/

/-- A registered provider was last seen at its latest sign of life. -/
theorem moment?_lastSeen_final (p : Policy) (calls : List (Moment × Call)) :
    (final p (fun _ => shelfStore) calls .empty).IsTidy ∧
      ∀ id r, (final p (fun _ => shelfStore) calls .empty).providers.get? id = some r →
        r.lastSeen.moment? = lastSign? id (steps p (fun _ => shelfStore) calls .empty) := by
  rw [steps_eq, final_eq]
  refine Run.steps_induction (machine p fun _ => shelfStore)
    (P := fun past s => s.IsTidy ∧ ∀ id r, s.providers.get? id = some r →
      r.lastSeen.moment? = lastSign? id past) ⟨Shelf.isTidy_empty, by rintro id r ⟨⟩⟩ ?_ calls
  rintro past s ⟨now, call⟩ ⟨hs, hpast⟩
  refine ⟨isTidy_perform p now hs call, fun id r hafter => ?_⟩
  rw [lastSign?_concat]
  exact (stepOf_sighting p now hs call id).moment?_lastSeen (hpast id) r hafter

end ComputeDirectory.Registry
