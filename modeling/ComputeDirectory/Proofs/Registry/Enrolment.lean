import ComputeDirectory.Proofs.Registry.Presence
import Mathlib.Data.List.Dedup

/-!
# The order of registration

In memory, providers are listed in the order of their latest creating registrations: the ones that
found no record. A call takes at most the provider off the list that it removes, and puts at most the
one that it creates at the end (`listing_perform`); so the list after a run is what is left of the
providers that were created, each in the place of its latest creation (`listing_final`).

With a clock that does not go back this is also the order of the times of registration
(`isTimely_final`). The two orders have different sources, the place of an entry and a time in a
record, and they agree since a call that keeps the one keeps the other.
-/

namespace ComputeDirectory.Registry

open Provider (Record Registration Status Query)
open Table (Chronological)

/-! ## Creations and removals -/

/-- The identifiers of the providers, as they are listed. -/
def Shelf.listing (s : Shelf) : List Text := s.providers.values.map (·.id)

/-- The provider that a call removes. -/
def Call.removed? : Call → Option Text
  | .deregister id => some id
  | .register _ | .updateStatus _ _ | .heartbeat _ _ | .applyDelta _ _ _ _ | .markStale _ => none

/-- The provider that a step created: it registered, and there was no record of it. -/
def Step.created? (step : Step Shelf) : Option Text :=
  match step.call with
  | .register r =>
    if step.outcome.isOk && !step.before.providers.contains r.id then some r.id else none
  | .deregister _ | .updateStatus _ _ | .heartbeat _ _ | .applyDelta _ _ _ _ | .markStale _ => none

/-- The providers that were created, in the order of their latest creations. Of repeated members of a
list the last one stays. -/
def enrolment (past : List (Step Shelf)) : List Text := (past.filterMap Step.created?).dedup

theorem dedup_concat {α : Type} [DecidableEq α] (l : List α) (a : α) :
    (l ++ [a]).dedup = l.dedup.filter (· ≠ a) ++ [a] := by
  induction l with
  | nil => simp
  | cons b l ih =>
    rw [List.cons_append]
    by_cases hb : b ∈ l
    · rw [List.dedup_cons_of_mem (List.mem_append_left _ hb), List.dedup_cons_of_mem hb, ih]
    · rw [List.dedup_cons_of_notMem hb, List.filter_cons]
      by_cases hba : b = a
      · rw [List.dedup_cons_of_mem (by simp [hba]), ih]
        simp [hba]
      · rw [List.dedup_cons_of_notMem (by simp [hba, hb]), ih]
        simp [hba]

theorem Shelf.IsTidy.listing_eq_keys {s : Shelf} (hs : s.IsTidy) : s.listing = s.providers.keys :=
  hs.filed.ids_values

theorem Shelf.IsTidy.mem_listing_iff {s : Shelf} (hs : s.IsTidy) {id : Text} :
    id ∈ s.listing ↔ s.providers.contains id = true := by
  rw [hs.listing_eq_keys, OrderedMap.contains_iff]

/-! ## One call -/

section

variable (p : Policy) (now : Moment) {s : Shelf}

/-- A share that leaves a record where there was one keeps the order. -/
theorem Share.keys_onto {id : Text} {share : Share}
    (h : share.record?.isSome = (s.providers.get? id).isSome) :
    (share.onto id s).providers.keys = s.providers.keys := by
  rw [onto]
  cases hrecord : share.record? with
  | none =>
    rw [hrecord, Option.isSome_none, eq_comm, Option.isSome_eq_false_iff,
      Option.isNone_iff_eq_none] at h
    exact congrArg OrderedMap.keys (OrderedMap.erase_of_get? h)
  | some r =>
    rw [hrecord, Option.isSome_some, eq_comm, Option.isSome_iff_exists] at h
    obtain ⟨old, hold⟩ := h
    exact OrderedMap.keys_insert_of_mem (OrderedMap.mem_keys_of_get? hold) r

/-- A call that neither creates nor removes keeps the order. -/
theorem listing_of_keys_eq (hs : s.IsTidy) {call : Call} (hremoved : call.removed? = none)
    (hcreated : (stepOf p shelfStore now call s).created? = none)
    (hkeys : (perform shelfStore p now call s).2.providers.keys = s.providers.keys) :
    (perform shelfStore p now call s).2.listing =
      (s.listing.filter fun id => call.removed? ≠ some id) ++
        (stepOf p shelfStore now call s).created?.toList := by
  rw [(isTidy_perform p now hs call).listing_eq_keys, hkeys, hremoved, hcreated, hs.listing_eq_keys]
  simp

/-- So does a call to one provider whose share leaves a record exactly if it found one. -/
theorem listing_of_share_isSome (hs : s.IsTidy) {call : Call} {id : Text}
    (hprovider : call.provider? = some id) (hremoved : call.removed? = none)
    (hcreated : (stepOf p shelfStore now call s).created? = none)
    (hrecord : (call.share p now id (s.providers.get? id)).record?.isSome =
      (s.providers.get? id).isSome) :
    (perform shelfStore p now call s).2.listing =
      (s.listing.filter fun id => call.removed? ≠ some id) ++
        (stepOf p shelfStore now call s).created?.toList := by
  refine listing_of_keys_eq p now hs hremoved hcreated ?_
  rw [perform_addressed p now hprovider hs]
  exact Share.keys_onto hrecord

/-- A registration succeeds as long as the clock can be read. -/
theorem isOk_register (r : Registration) :
    (perform shelfStore p now (.register r) s).1.isOk = now.isInCalendar := by
  rw [perform, Attempt.map_apply, register_shelf]
  cases hcalendar : now.isInCalendar with
  | true =>
    rw [stamp_of_isInCalendar hcalendar]
    cases s.providers.get? r.id <;> rfl
  | false =>
    cases hstamp : stamp now with
    | error f => rfl
    | ok seen =>
      rw [(stamp_eq_ok_iff.1 hstamp).2] at hcalendar
      cases hcalendar

theorem created?_register (r : Registration) :
    (stepOf p shelfStore now (.register r) s).created? =
      if now.isInCalendar && !s.providers.contains r.id then some r.id else none := by
  rw [← isOk_register p now r]
  rfl

theorem listing_register (hs : s.IsTidy) (r : Registration) :
    (perform shelfStore p now (.register r) s).2.listing =
      (s.listing.filter fun id => (Call.register r).removed? ≠ some id) ++
        (stepOf p shelfStore now (.register r) s).created?.toList := by
  have hprovider : Call.provider? (.register r) = some r.id := rfl
  cases hstamp : stamp now with
  | error f =>
    have hcalendar : now.isInCalendar = false :=
      Bool.eq_false_iff.2 fun hcalendar => stamp_ne_error hcalendar f hstamp
    refine listing_of_share_isSome p now hs hprovider rfl ?_ ?_
    · rw [created?_register, hcalendar, Bool.false_and, if_neg Bool.false_ne_true]
    · rw [Call.share, hstamp]
      rfl
  | ok seen =>
    cases hget : s.providers.get? r.id with
    | some old =>
      refine listing_of_share_isSome p now hs hprovider rfl ?_ ?_
      · rw [created?_register, OrderedMap.contains, hget, Option.isSome_some, Bool.not_true,
          Bool.and_false, if_neg Bool.false_ne_true]
      · rw [hget, Call.share, hstamp]
        rfl
    | none =>
      have hafter := congrArg (fun result => result.2.providers.keys)
        (perform_addressed p now hprovider hs)
      rw [hget, Call.share, hstamp] at hafter
      have hinsert : (perform shelfStore p now (.register r) s).2.providers.keys =
          s.providers.keys ++ [r.id] :=
        hafter.trans (OrderedMap.keys_insert_of_not_mem (OrderedMap.get?_eq_none_iff.1 hget) _)
      rw [(isTidy_perform p now hs _).listing_eq_keys, hinsert, hs.listing_eq_keys,
        created?_register, (stamp_eq_ok_iff.1 hstamp).2, OrderedMap.contains, hget]
      simp [Call.removed?]

/-- A call takes off the list what it removes, and puts at the end what it creates. -/
theorem listing_perform (hs : s.IsTidy) (call : Call) :
    (perform shelfStore p now call s).2.listing =
      (s.listing.filter fun id => call.removed? ≠ some id) ++
        (stepOf p shelfStore now call s).created?.toList := by
  cases call with
  | register r => exact listing_register p now hs r
  | deregister target =>
    have hkeys : (perform shelfStore p now (.deregister target) s).2.providers.keys =
        s.providers.keys.filter (· ≠ target) := OrderedMap.keys_erase ..
    rw [(isTidy_perform p now hs _).listing_eq_keys, hkeys, hs.listing_eq_keys]
    simp [Call.removed?, stepOf, Step.created?, eq_comm]
  | updateStatus target status =>
    refine listing_of_share_isSome p now hs rfl rfl rfl ?_
    cases s.providers.get? target <;> rfl
  | heartbeat target status =>
    refine listing_of_share_isSome p now hs rfl rfl rfl ?_
    rw [Call.share]
    cases s.providers.get? target with
    | none => rfl
    | some old =>
      rw [Share.required]
      cases stamp now <;> rfl
  | applyDelta target delta reason jobId =>
    refine listing_of_share_isSome p now hs rfl rfl rfl ?_
    rw [Call.share]
    split
    · cases s.providers.get? target with
      | none => rfl
      | some old =>
        rw [Share.required]
        cases stamp now <;> rfl
    · rfl
  | markStale given =>
    refine listing_of_keys_eq p now hs rfl rfl ?_
    rw [perform, Attempt.map_apply]
    cases hsince : soughtSince p now given with
    | error fault => rw [markStaleAt_shelf_of_error hsince]
    | ok before =>
      obtain ⟨t, hmarked, -, hkeys, -⟩ := markSilent_shelf before hs
      rw [markStaleAt_of_soughtSince shelfStore hsince, hmarked]
      exact hkeys

end

/-! ## The list after a run -/

section

variable {p : Policy} {now : Moment} {s : Shelf} {past : List (Step Shelf)}

/-- What a step creates was not there, and the step removes nothing. -/
theorem created?_eq_some {step : Step Shelf} {id : Text} (h : step.created? = some id) :
    step.call.removed? = none ∧ step.before.providers.contains id = false := by
  rw [Step.created?] at h
  cases hcall : step.call with
  | register r =>
    simp only [hcall] at h
    split at h
    · next hnew =>
      cases h
      rw [Bool.and_eq_true, Bool.not_eq_true'] at hnew
      exact ⟨rfl, hnew.2⟩
    · cases h
  | deregister target => simp [hcall] at h
  | updateStatus target status => simp [hcall] at h
  | heartbeat target status => simp [hcall] at h
  | applyDelta target delta reason jobId => simp [hcall] at h
  | markStale given => simp [hcall] at h

/-- If the list is what is left of the providers that were created, it is so after one more call. -/
theorem listing_stepOf (hs : s.IsTidy)
    (hlist : s.listing = (enrolment past).filter s.providers.contains) (call : Call) :
    (perform shelfStore p now call s).2.listing =
      (enrolment (past ++ [stepOf p shelfStore now call s])).filter
        (perform shelfStore p now call s).2.providers.contains := by
  have hperform := listing_perform p now hs call
  have hmem (id : Text) : (perform shelfStore p now call s).2.providers.contains id = true ↔
      (s.providers.contains id = true ∧ call.removed? ≠ some id) ∨
        (stepOf p shelfStore now call s).created? = some id := by
    rw [← (isTidy_perform p now hs call).mem_listing_iff, hperform, ← hs.mem_listing_iff]
    simp
  rw [enrolment, List.filterMap_append]
  cases hcreated : (stepOf p shelfStore now call s).created? with
  | none =>
    rw [hcreated] at hperform
    simp only [hcreated] at hmem
    rw [List.filterMap_cons_none hcreated, List.filterMap_nil, List.append_nil, hperform, hlist,
      Option.toList_none, List.append_nil, List.filter_filter]
    refine List.filter_congr fun id _ => ?_
    rw [Bool.eq_iff_iff, hmem]
    simp [and_comm]
  | some new =>
    obtain ⟨hremoved, hnew⟩ := created?_eq_some hcreated
    replace hremoved : call.removed? = none := hremoved
    replace hnew : s.providers.contains new = false := hnew
    rw [hcreated, hremoved] at hperform
    simp only [hcreated, hremoved] at hmem
    -- the one that is created was not listed, and stands last among those that were created
    rw [List.filterMap_cons_some hcreated, List.filterMap_nil, hperform, hlist,
      Option.toList_some, dedup_concat, List.filter_append]
    have hlast : [new].filter (perform shelfStore p now call s).2.providers.contains = [new] := by
      rw [List.filter_singleton, (hmem new).2 (.inr rfl), cond_true]
    rw [hlast, List.filter_filter, List.filter_filter]
    refine congrArg (· ++ [new]) (List.filter_congr fun id _ => ?_)
    rw [Bool.eq_iff_iff, Bool.and_eq_true, Bool.and_eq_true, hmem]
    by_cases hid : id = new
    · simp [hid, hnew]
    · simp [hid, Ne.symm hid]

/-- After a run the list is what is left of the providers that were created. -/
theorem listing_final (p : Policy) (calls : List (Moment × Call)) :
    (final p (fun _ => shelfStore) calls .empty).IsTidy ∧
      (final p (fun _ => shelfStore) calls .empty).listing =
        (enrolment (steps p (fun _ => shelfStore) calls .empty)).filter
          (final p (fun _ => shelfStore) calls .empty).providers.contains := by
  rw [steps_eq, final_eq]
  refine Run.steps_induction (machine p fun _ => shelfStore)
    (P := fun past s => s.IsTidy ∧ s.listing = (enrolment past).filter s.providers.contains)
    ⟨Shelf.isTidy_empty, rfl⟩ ?_ calls
  rintro past s ⟨now, call⟩ ⟨hs, hlist⟩
  exact ⟨isTidy_perform p now hs call, listing_stepOf hs hlist call⟩

/-! ## Pages -/

theorem list_of_all {σ : Type} {store : ProviderStore σ} {s s' : σ} {listed : List Record}
    (hall : store.all s = (.ok listed, s')) (status : Option Status) {number size : Int}
    (hnumber : 1 ≤ number) (hsize : 1 ≤ size) :
    list store number size status s = (.ok (pageOf (withStatus status listed) number size), s') := by
  have hvalid : ¬ (number < 1 ∨ size < 1) := by omega
  rw [list, if_neg hvalid]
  exact Attempt.bind_of_ok hall

/-- A page shows the listed providers with a status, in the order of the list. -/
theorem list_listing (hs : s.IsTidy) {number size : Int} (hnumber : 1 ≤ number) (hsize : 1 ≤ size)
    (status : Option Status) :
    ∃ page, list shelfStore number size status s = (.ok page, s) ∧
      page.items.map (·.id) =
        ((s.listing.filter fun id => (s.providers.get? id).any fun r =>
          Query.asks status (r.status == ·)).drop ((number - 1) * size).toNat).take size.toNat := by
  refine ⟨pageOf (withStatus status s.providers.values) number size,
    list_of_all rfl status hnumber hsize, ?_⟩
  rw [pageOf, List.map_take, List.map_drop, withStatus, Shelf.listing, List.filter_map]
  refine congrArg (fun records : List Record => ((records.map (·.id)).drop _).take _) ?_
  refine List.filter_congr fun r hr => ?_
  rw [Function.comp_apply, (hs.listed r hr).1, Option.any_some]

end

/-! ## The order of time -/

/-- A record was made and last seen in this order, and not after now. -/
structure Aged (now : Moment) (r : Record) : Prop where
  writable : r.registeredAt.IsWritable
  times : ∃ first last, r.registeredAt.moment? = some first ∧ r.lastSeen.moment? = some last ∧
    first ≤ last ∧ last ≤ now

theorem Aged.mono {now later : Moment} {r : Record} (h : Aged now r) (hle : now ≤ later) :
    Aged later r := by
  obtain ⟨first, last, hfirst, hlast, horder, hnow⟩ := h.times
  exact ⟨h.writable, first, last, hfirst, hlast, horder, Int.le_trans hnow hle⟩

theorem Aged.of_stamp {now : Moment} {r : Record} {first : Moment}
    (hwritable : r.registeredAt.IsWritable) (hfirst : r.registeredAt.moment? = some first)
    (hle : first ≤ now) (hseen : stamp now = .ok r.lastSeen) : Aged now r := by
  refine ⟨hwritable, first, now, hfirst, ?_, hle, Int.le_refl now⟩
  rw [(stamp_eq_ok_iff.1 hseen).1, Timestamp.moment?_utc]

/-- A sighting of a provider keeps its times in order. -/
theorem Sighting.aged {now : Moment} {sign : Bool} {found left : Option Record}
    (h : Sighting now sign found left) (hfound : ∀ old, found = some old → Aged now old) (r : Record)
    (hleft : left = some r) : Aged now r := by
  cases h with
  | absent => cases hleft
  | kept hregistered hseen =>
    cases hleft
    have hold := hfound _ rfl
    refine ⟨?_, ?_⟩
    · rw [hregistered]
      exact hold.writable
    · rw [hregistered, hseen]
      exact hold.times
  | seen hregistered hseen =>
    cases hleft
    have hold := hfound _ rfl
    obtain ⟨first, last, hfirst, -, horder, hnow⟩ := hold.times
    rw [← hregistered] at hfirst
    refine Aged.of_stamp ?_ hfirst (Int.le_trans horder hnow) hseen
    rw [hregistered]
    exact hold.writable
  | @created new hregistered hseen =>
    obtain rfl : new = r := Option.some.inj hleft
    have hfirst : new.registeredAt.moment? = some now := by
      rw [(stamp_eq_ok_iff.1 hregistered).1, Timestamp.moment?_utc]
    exact Aged.of_stamp (isWritable_of_stamp hregistered) hfirst (Int.le_refl now) hseen

/-- The providers of a shelf registered in the order in which they are listed, and none of them was
last seen before that or after now. -/
structure Shelf.IsTimely (now : Moment) (s : Shelf) : Prop where
  registered : Chronological now (s.providers.values.map (·.registeredAt))
  aged : ∀ id r, s.providers.get? id = some r → Aged now r

section

variable {now later : Moment} {s : Shelf}

theorem Shelf.IsTimely.mono (h : s.IsTimely now) (hle : now ≤ later) : s.IsTimely later where
  registered := h.registered.mono hle
  aged id r hget := (h.aged id r hget).mono hle

theorem Shelf.isTimely_empty (now : Moment) : Shelf.empty.IsTimely now where
  registered := .nil now
  aged := by rintro id r ⟨⟩

/-- When the providers of a list registered. -/
theorem Shelf.IsTidy.map_registeredAt (hs : s.IsTidy) :
    s.providers.values.map (·.registeredAt) =
      s.listing.filterMap fun id => (s.providers.get? id).map (·.registeredAt) := by
  rw [hs.listing_eq_keys, s.providers.values_eq, List.map_filterMap]

/-- A call strikes times of registration off, and puts at the end that of the provider that it
creates. -/
theorem map_registeredAt_perform (p : Policy) (hs : s.IsTidy) (call : Call) :
    (perform shelfStore p now call s).2.providers.values.map (·.registeredAt) =
      ((s.listing.filter fun id => call.removed? ≠ some id).filterMap fun id =>
        (s.providers.get? id).map (·.registeredAt)) ++
        (stepOf p shelfStore now call s).created?.toList.map fun _ => .utc now := by
  have hafter := isTidy_perform p now hs call
  have hlist := listing_perform p now hs call
  rw [hafter.map_registeredAt, hlist, List.filterMap_append]
  -- whoever is listed after the call has a record then
  have hfound (id : Text) (hid : id ∈ (perform shelfStore p now call s).2.listing) :
      ∃ r, (perform shelfStore p now call s).2.providers.get? id = some r :=
    Option.isSome_iff_exists.1 (hafter.mem_listing_iff.1 hid)
  refine congrArg₂ _ (List.filterMap_congr fun id hid => ?_) ?_
  · obtain ⟨r, hr⟩ := hfound id (by rw [hlist]; exact List.mem_append_left _ hid)
    obtain ⟨old, hold⟩ := Option.isSome_iff_exists.1
      (hs.mem_listing_iff.1 (List.mem_filter.1 hid).1)
    have hsighting := stepOf_sighting p now hs call id
    rw [hold, hr] at hsighting
    rw [hold, hr, Option.map_some, Option.map_some, hsighting.registeredAt_eq]
  · cases hcreated : (stepOf p shelfStore now call s).created? with
    | none => rfl
    | some new =>
      obtain ⟨r, hr⟩ := hfound new (by rw [hlist, hcreated]; simp)
      have hnone : s.providers.get? new = none :=
        Option.isSome_eq_false_iff.1 (created?_eq_some hcreated).2 |> Option.isNone_iff_eq_none.1
      have hsighting := stepOf_sighting p now hs call new
      rw [hnone, hr] at hsighting
      have hregistered := (stamp_eq_ok_iff.1 hsighting.stamp_registeredAt).1
      rw [Option.toList_some, List.filterMap_cons_some (by rw [hr]; rfl), List.filterMap_nil]
      exact congrArg (fun time => [time]) hregistered

/-- A call now keeps a shelf in the order of time. -/
theorem Shelf.IsTimely.perform (h : s.IsTimely now) (p : Policy) (hs : s.IsTidy) (call : Call) :
    (perform shelfStore p now call s).2.IsTimely now where
  registered := by
    have hkept : Chronological now ((s.listing.filter fun id => call.removed? ≠ some id).filterMap
        fun id => (s.providers.get? id).map (·.registeredAt)) := by
      refine h.registered.sublist ?_
      rw [hs.map_registeredAt]
      exact List.filter_sublist.filterMap _
    rw [map_registeredAt_perform p hs call]
    cases (stepOf p shelfStore now call s).created? with
    | none =>
      rw [Option.toList_none, List.map_nil, List.append_nil]
      exact hkept
    | some new => exact hkept.concat
  aged id := (stepOf_sighting p now hs call id).aged (h.aged id)

/-- Calls that follow one another in time keep a shelf in the order of time. -/
theorem Shelf.IsTimely.final (h : s.IsTimely now) (p : Policy) (hs : s.IsTidy)
    {calls : List (Moment × Call)} (hclock : calls.Pairwise fun call later => call.1 ≤ later.1)
    (hfrom : ∀ call ∈ calls, now ≤ call.1) (huntil : ∀ call ∈ calls, call.1 ≤ later)
    (hle : now ≤ later) : (final p (fun _ => shelfStore) calls s).IsTimely later := by
  -- on the calls: what the first one leaves is in order at its own moment
  induction calls generalizing now s with
  | nil => exact h.mono hle
  | cons first calls ih =>
    obtain ⟨moment, call⟩ := first
    obtain ⟨hnext, hclock⟩ := List.pairwise_cons.1 hclock
    have hfirst := (h.mono (hfrom _ (List.mem_cons_self ..))).perform p hs call
    exact ih hfirst (isTidy_perform p moment hs call) hclock hnext
      (fun call hcall => huntil call (List.mem_cons_of_mem _ hcall))
      (huntil _ (List.mem_cons_self ..))

/-- With a clock that does not go back, the list after a run is in the order of time. -/
theorem isTimely_final (p : Policy) {calls : List (Moment × Call)}
    (hclock : calls.Pairwise fun call later => call.1 ≤ later.1)
    (huntil : ∀ call ∈ calls, call.1 ≤ now) :
    (final p (fun _ => shelfStore) calls .empty).IsTimely now := by
  cases calls with
  | nil => exact Shelf.isTimely_empty now
  | cons first calls =>
    refine (Shelf.isTimely_empty first.1).final p Shelf.isTidy_empty hclock ?_ huntil
      (huntil first (List.mem_cons_self ..))
    intro call hcall
    rcases List.mem_cons.1 hcall with rfl | hcall
    · exact Int.le_refl _
    · exact (List.pairwise_cons.1 hclock).1 call hcall

/-- Rows in the order of registration are not moved when they are asked for in the order of time. -/
theorem Shelf.IsTimely.select_rows (h : s.IsTimely now) {d : Table.Database}
    (hrows : d "providers" = s.providers.values.map Record.toJson) :
    d.select "providers" none (some "registered_at") = d "providers" := by
  show (d "providers").mergeSort (Table.notAfter "registered_at") = d "providers"
  rw [hrows]
  refine h.registered.mergeSort_rows fun r hr => ?_
  obtain ⟨id, hget⟩ := OrderedMap.exists_get?_of_mem_values hr
  refine Table.instant?_of_get? (h.aged id r hget).writable ?_
  simp [Json.get?, Record.toJson, Json.member?_cons, Text.ofString_inj]

end

/-! ## Main statement -/

/-- What the list of a shelf tells of the past, and what becomes of it in one more call. -/
structure Shelf.IsEnrolled (p : Policy) (past : List (Step Shelf)) (s : Shelf) : Prop where
  nodup : s.listing.Nodup
  /-- The providers stand in the order of their latest creating registrations. -/
  order : s.listing = (enrolment past).filter s.providers.contains
  pages : ∀ (number size : Int) (status : Option Status), 1 ≤ number → 1 ≤ size →
    ∃ page, list shelfStore number size status s = (.ok page, s) ∧
      page.items.map (·.id) =
        ((s.listing.filter fun id => (s.providers.get? id).any fun r =>
          Query.asks status (r.status == ·)).drop ((number - 1) * size).toNat).take size.toNat
  /-- Only what is removed leaves its place, and only what is created comes in, at the end. -/
  moves : ∀ now call, (perform shelfStore p now call s).2.listing =
    (s.listing.filter fun id => call.removed? ≠ some id) ++
      (stepOf p shelfStore now call s).created?.toList
  /-- A provider that stays keeps the time of its registration. -/
  since : ∀ now call id old r, s.providers.get? id = some old →
    (perform shelfStore p now call s).2.providers.get? id = some r →
    r.registeredAt = old.registeredAt
  /-- A provider that leaves and registers again comes last. -/
  returns : ∀ (left back : Moment) (r : Registration), back.isInCalendar = true →
    (final p (fun _ => shelfStore) [(left, .deregister r.id), (back, .register r)] s).listing =
      s.listing.filter (· ≠ r.id) ++ [r.id]

/-- A provider that was removed is created by its next registration, at the end of the list. -/
theorem listing_return (p : Policy) {s : Shelf} (hs : s.IsTidy) (left : Moment) {back : Moment}
    (hback : back.isInCalendar = true) (r : Registration) :
    (final p (fun _ => shelfStore) [(left, .deregister r.id), (back, .register r)] s).listing =
      s.listing.filter (· ≠ r.id) ++ [r.id] := by
  let gone := (perform shelfStore p left (.deregister r.id) s).2
  have hgone : gone.IsTidy := isTidy_perform p left hs _
  have hleft : gone.listing = s.listing.filter (· ≠ r.id) := by
    refine (listing_perform p left hs (.deregister r.id)).trans ?_
    simp [Call.removed?, stepOf, Step.created?, eq_comm]
  have hnone : gone.providers.contains r.id = false := by
    have hget : gone.providers.get? r.id = none :=
      (s.providers.get?_erase r.id r.id).trans (if_pos rfl)
    rw [OrderedMap.contains, hget, Option.isSome_none]
  have hcreated : (stepOf p shelfStore back (.register r) gone).created? = some r.id := by
    rw [created?_register, hback, hnone]
    rfl
  refine (listing_perform p back hgone (.register r)).trans ?_
  rw [hcreated, hleft]
  simp [Call.removed?]

/-- The order of registration is stable. After every run of operations the providers are listed once
each, in the order of their latest creating registrations, on every page; no call but a removal and a
creation touches that order, and none the time of a registration; and who leaves and comes back comes
last. If the clock does not go back, this is the order of the times of registration, so that sorting
the rows by it moves none, and every provider registered no later than it was last seen. -/
theorem registration_order_stable (p : Policy) (operations : List (Moment × Operation)) :
    (shelfAfter p operations).IsEnrolled p (pastOf p operations) ∧
      ∀ now, (operations.Pairwise fun operation later => operation.1 ≤ later.1) →
        (∀ operation ∈ operations, operation.1 ≤ now) →
        (shelfAfter p operations).IsTimely now ∧
          ∀ d : Table.Database,
            d "providers" = (shelfAfter p operations).providers.values.map Record.toJson →
            d.select "providers" none (some "registered_at") = d "providers" := by
  obtain ⟨hs, hlist⟩ := listing_final p (callsOf operations)
  rw [pastOf, shelfAfter_eq_final]
  refine ⟨?_, ?_⟩
  · refine ⟨hs.nodup_ids, hlist, fun _ _ status hnumber hsize => list_listing hs hnumber hsize status,
      fun now call => listing_perform p now hs call, ?_,
      fun left _ r hback => listing_return p hs left hback r⟩
    intro now call id old r hold hr
    have hsighting := stepOf_sighting p now hs call id
    rw [hold, hr] at hsighting
    exact hsighting.registeredAt_eq
  · intro now hclock huntil
    have htimely : (final p (fun _ => shelfStore) (callsOf operations) .empty).IsTimely now := by
      refine isTimely_final p ?_ ?_
      · refine hclock.filterMap _ fun operation later hle call hcall call' hcall' => ?_
        obtain ⟨-, -, rfl⟩ := Option.map_eq_some_iff.1 hcall
        obtain ⟨-, -, rfl⟩ := Option.map_eq_some_iff.1 hcall'
        exact hle
      · intro call hcall
        obtain ⟨operation, hoperation, hsome⟩ := List.mem_filterMap.1 hcall
        obtain ⟨-, -, rfl⟩ := Option.map_eq_some_iff.1 hsome
        exact huntil operation hoperation
    exact ⟨htimely, fun d hrows => htimely.select_rows hrows⟩

/-- Of two providers the first one leaves and comes back, while the other one only registers again
and is asked for in between. -/
theorem registration_order_stable_sample :
    let p : Policy := ⟨60, .nan⟩
    let other : Registration := { sampleRegistration with id := "cpu" }
    let operations : List (Moment × Operation) :=
      [(0, .call (.register sampleRegistration)), (0, .call (.register other)),
        (1000000, .call (.deregister "gpu")), (2000000, .list 1 20 none),
        (2000000, .call (.register sampleRegistration)), (3000000, .call (.register other))]
    (shelfAfter p operations).IsEnrolled p (pastOf p operations) ∧
      (operations.Pairwise fun operation later => operation.1 ≤ later.1) ∧
      (∀ operation ∈ operations, operation.1 ≤ 3000000) ∧
      (shelfAfter p operations).listing = ["cpu", "gpu"] ∧
      (shelfAfter p operations).IsTimely 3000000 := by
  intro p other operations
  have hclock : operations.Pairwise fun operation later => operation.1 ≤ later.1 := by
    simp [operations]
  have huntil : ∀ operation ∈ operations, operation.1 ≤ 3000000 := by simp [operations]
  obtain ⟨henrolled, htimely⟩ := registration_order_stable p operations
  have hlisted : (shelfAfter p operations).listing = ["cpu", "gpu"] := by decide +kernel
  exact ⟨henrolled, hclock, huntil, hlisted, (htimely 3000000 hclock huntil).1⟩

end ComputeDirectory.Registry
