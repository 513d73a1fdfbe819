import ComputeDirectory.Proofs.OrderedMap
import ComputeDirectory.Proofs.Registry.Atomicity

/-!
# What a call does to one provider

In memory a call looks at the record of the provider that it is addressed to, changes that record,
and enters changes of its reputation. A search for silent providers looks at every record, and does
to each of them what it would do if there were no other. So what falls to one provider is a function
of its own record: `Call.share`. `perform_share` says that a call which concerns a provider does to
it what its share is, and `perform_of_not_concerns` that any other call leaves it alone.

A listing is scanned while records are changed, which is harmless as every record is filed under its
own identifier and is changed once (`markEach_shelf`).
-/

namespace ComputeDirectory.Registry

open Provider (Record Registration ReputationChange Status)

/-! ## Calls and providers -/

/-- The provider that a call is addressed to; a search for silent providers is addressed to none. -/
def Call.provider? : Call → Option Text
  | .register r => some r.id
  | .deregister id | .updateStatus id _ | .heartbeat id _ | .applyDelta id _ _ _ => some id
  | .markStale _ => none

theorem Call.eq_markStale_of_provider? {call : Call} (h : call.provider? = none) :
    ∃ given, call = .markStale given := by
  cases call with
  | markStale given => exact ⟨given, rfl⟩
  | register r => cases h
  | deregister id => cases h
  | updateStatus id status => cases h
  | heartbeat id status => cases h
  | applyDelta id delta reason jobId => cases h

/-- Whether a call is addressed to a provider, or to none. -/
def Call.concerns (id : Text) (call : Call) : Bool := call.provider?.all (· = id)

/-- What of a reply is about a provider: of the providers that were marked, only this one. -/
def Reply.seenBy (id : Text) : Reply → Reply
  | .marked ids => .marked (ids.filter (· = id))
  | .record r => .record r
  | .removed found => .removed found

/-- Whether a provider is not offline and was last seen before a moment. -/
def silentAt (before : Moment) (r : Record) : Bool :=
  r.status ≠ .offline && r.lastSeen.moment?.any (· < before)

/-- A record after a search for providers that are silent since a moment. -/
def settled (before : Moment) (r : Record) : Record :=
  if silentAt before r then { r with status := .offline } else r

@[simp] theorem settled_id (before : Moment) (r : Record) : (settled before r).id = r.id := by
  rw [settled]
  split <;> rfl

@[simp] theorem settled_registeredAt (before : Moment) (r : Record) :
    (settled before r).registeredAt = r.registeredAt := by
  rw [settled]
  split <;> rfl

@[simp] theorem settled_lastSeen (before : Moment) (r : Record) :
    (settled before r).lastSeen = r.lastSeen := by
  rw [settled]
  split <;> rfl

/-- A record after a sign of life. -/
def revived (seen : Timestamp) (status : Option Status) (old : Record) : Record :=
  { old with
    lastSeen := seen
    status := status.getD (if old.status = .offline then .available else old.status) }

/-- What a call comes to for one provider. -/
structure Share where
  outcome : Except Failure Reply
  /-- The record that is stored afterwards. -/
  record? : Option Record
  /-- The changes of reputation that are entered. -/
  entered : List ReputationChange

/-- The share of a call that fails and changes nothing. -/
def Share.refused (found : Option Record) (f : Failure) : Share := ⟨.error f, found, []⟩

/-- The share of a call that stores a record and returns it. -/
def Share.stored (r : Record) : Share := ⟨.ok (.record r), some r, []⟩

/-- The share of a call that needs the record of its provider. -/
def Share.required (id : Text) (found : Option Record) (f : Record → Share) : Share :=
  match found with
  | some old => f old
  | none => .refused none (.refused (.providerNotFound id))

/-- A shelf after the share of a provider was written to it. -/
def Share.onto (id : Text) (share : Share) (s : Shelf) : Shelf where
  providers :=
    match share.record? with
    | some r => s.providers.insert id r
    | none => s.providers.erase id
  changes := s.changes ++ share.entered

/-- What a call comes to for a provider that it concerns, by the record of that provider. -/
def Call.share (p : Policy) (now : Moment) (id : Text) (found : Option Record) : Call → Share
  | .register r =>
    match stamp now with
    | .error f => .refused found f
    | .ok seen =>
      match found with
      | some old => .stored (refreshed seen r old)
      | none => .stored (newRecord p seen r)
  | .deregister _ => ⟨.ok (.removed found.isSome), none, []⟩
  | .updateStatus _ status => .required id found fun old => .stored { old with status }
  | .heartbeat _ status =>
    .required id found fun old =>
      match stamp now with
      | .error f => .refused found f
      | .ok seen => .stored (revived seen status old)
  | .applyDelta _ delta reason jobId =>
    if delta.isFinite then
      .required id found fun old =>
        match stamp now with
        -- the record was saved before the clock was read
        | .error f => ⟨.error f, some (rescored delta old), []⟩
        | .ok applied =>
          ⟨.ok (.record (rescored delta old)), some (rescored delta old),
            [changeOf id delta reason jobId old applied]⟩
    else .refused found (.refused (.invalidConfiguration (.reputationDelta delta)))
  | .markStale given =>
    match soughtSince p now given with
    | .error fault => .refused found (.time fault)
    | .ok before =>
      ⟨.ok (.marked (if found.any (silentAt before) then [id] else [])),
        found.map (settled before), []⟩

/-! ## Tidy shelves -/

/-- Every record is filed under its identifier and tells the moment at which it was last seen. -/
structure Shelf.IsTidy (s : Shelf) : Prop where
  filed : s.IsFiled
  timed : ∀ id r, s.providers.get? id = some r → r.lastSeen.moment?.isSome = true

theorem stamp_eq_ok_iff {now : Moment} {t : Timestamp} :
    stamp now = .ok t ↔ t = .utc now ∧ now.isInCalendar = true := by
  constructor
  · intro h
    cases hplaced : now.placed with
    | error fault =>
      rw [stamp, Timestamp.ofMoment, hplaced] at h
      cases h
    | ok placed =>
      obtain ⟨rfl, hcalendar⟩ := Moment.placed_eq_ok_iff.1 hplaced
      rw [stamp_of_isInCalendar hcalendar] at h
      cases h
      exact ⟨rfl, hcalendar⟩
  · rintro ⟨rfl, hcalendar⟩
    exact stamp_of_isInCalendar hcalendar

theorem moment?_isSome_of_stamp {now : Moment} {t : Timestamp} (h : stamp now = .ok t) :
    t.moment?.isSome = true := by
  rw [(stamp_eq_ok_iff.1 h).1, Timestamp.moment?_utc, Option.isSome_some]

theorem Shelf.isTidy_empty : Shelf.empty.IsTidy where
  filed := by
    rintro id r ⟨⟩
  timed := by
    rintro id r ⟨⟩

/-- A shelf with a record saved. -/
def Shelf.put (r : Record) (s : Shelf) : Shelf := { s with providers := s.providers.insert r.id r }

theorem Shelf.get?_put (r : Record) (s : Shelf) (id : Text) :
    (s.put r).providers.get? id = if id = r.id then some r else s.providers.get? id :=
  s.providers.get?_insert r.id id r

/-- A shelf with a change of reputation entered. -/
def Shelf.enter (c : ReputationChange) (s : Shelf) : Shelf := { s with changes := s.changes ++ [c] }

theorem Shelf.IsFiled.ids_values {s : Shelf} (hs : s.IsFiled) :
    s.providers.values.map (·.id) = s.providers.keys := by
  rw [OrderedMap.values, OrderedMap.keys, List.map_map]
  refine List.map_congr_left ?_
  rintro ⟨id, r⟩ hentry
  exact hs id r (OrderedMap.get?_eq_some_iff.2 hentry)

theorem Shelf.IsTidy.nodup_ids {s : Shelf} (hs : s.IsTidy) :
    (s.providers.values.map (·.id)).Nodup := by
  rw [hs.filed.ids_values]
  exact s.providers.nodup_keys

/-- A listed record is stored as it is listed. -/
theorem Shelf.IsTidy.listed {s : Shelf} (hs : s.IsTidy) (r : Record)
    (hr : r ∈ s.providers.values) :
    s.providers.get? r.id = some r ∧ r.lastSeen.moment?.isSome = true := by
  obtain ⟨id, hget⟩ := OrderedMap.exists_get?_of_mem_values hr
  obtain rfl := hs.filed id r hget
  exact ⟨hget, hs.timed _ _ hget⟩

/-! ## Shares on a shelf -/

namespace Share

variable {id : Text} {s : Shelf} {found : Option Record}

/-- A share that is about one provider: it names no other, what it enters is about it, and the
record tells when it was last seen if the one before did. -/
structure Fits (id : Text) (found : Option Record) (share : Share) : Prop where
  seen : share.outcome.map (Reply.seenBy id) = share.outcome
  owned : ∀ c ∈ share.entered, c.providerId = id
  timed : (∀ r, found = some r → r.lastSeen.moment?.isSome = true) →
    ∀ r, share.record? = some r → r.lastSeen.moment?.isSome = true

theorem fits_refused (f : Failure) : (refused found f).Fits id found := by
  refine ⟨rfl, ?_, fun htimed => htimed⟩
  rintro c ⟨⟩

theorem fits_stored {r : Record}
    (h : (∀ old, found = some old → old.lastSeen.moment?.isSome = true) →
      r.lastSeen.moment?.isSome = true) : (stored r).Fits id found := by
  refine ⟨rfl, ?_, ?_⟩
  · rintro c ⟨⟩
  · rintro htimed r ⟨⟩
    exact h htimed

theorem fits_required {f : Record → Share} (h : ∀ old, found = some old → (f old).Fits id found) :
    (required id found f).Fits id found := by
  cases found with
  | none => exact fits_refused _
  | some old => exact h old rfl

theorem get?_onto (share : Share) (s : Shelf) (id other : Text) :
    (share.onto id s).providers.get? other =
      if other = id then share.record? else s.providers.get? other := by
  unfold onto
  cases share.record? with
  | none => exact s.providers.get?_erase id other
  | some r => exact s.providers.get?_insert id other r

theorem history_onto (share : Share) (s : Shelf) (id other : Text) :
    (share.onto id s).history other =
      s.history other ++ share.entered.filter fun c => c.providerId = other :=
  List.filter_append ..

theorem onto_refused (hfound : s.providers.get? id = found)
    (f : Failure) : (refused found f).onto id s = s := by
  have hproviders : ((refused found f).onto id s).providers = s.providers := by
    cases found with
    | none => exact OrderedMap.erase_of_get? hfound
    | some r => exact OrderedMap.insert_of_get? hfound
  have hchanges : ((refused found f).onto id s).changes = s.changes := List.append_nil _
  exact congrArg₂ Shelf.mk hproviders hchanges

theorem onto_saved {r : Record} (hid : r.id = id) (outcome : Except Failure Reply) :
    onto id ⟨outcome, some r, []⟩ s = s.put r := by
  rw [onto, hid.symm, List.append_nil]
  rfl

theorem onto_stored {r : Record} (hid : r.id = id) : (stored r).onto id s = s.put r :=
  onto_saved hid _

theorem onto_applied {r : Record} (hid : r.id = id) (outcome : Except Failure Reply)
    (c : ReputationChange) : onto id ⟨outcome, some r, [c]⟩ s = (s.put r).enter c := by
  rw [onto, hid.symm]
  rfl

theorem onto_removed (s : Shelf) (id : Text) (outcome : Except Failure Reply) :
    onto id ⟨outcome, none, []⟩ s = { s with providers := s.providers.erase id } := by
  rw [onto, List.append_nil]

end Share

/-! ## The operations on a shelf -/

section

variable (p : Policy) (now : Moment) (id : Text) (s : Shelf)

theorem find?_shelf : shelfStore.find? id s = (.ok (s.providers.get? id), s) := rfl

theorem save_shelf (r : Record) : shelfStore.save r s = (.ok (), s.put r) := rfl

theorem append_shelf (c : ReputationChange) : shelfStore.append c s = (.ok (), s.enter c) := rfl

theorem require_shelf :
    require shelfStore id s =
      match s.providers.get? id with
      | some r => (.ok r, s)
      | none => (.error (.refused (.providerNotFound id)), s) := by
  rw [require, Attempt.bind_of_ok (find?_shelf id s)]
  cases s.providers.get? id <;> rfl

theorem register_shelf (r : Registration) :
    register shelfStore p now r s =
      match stamp now with
      | .error f => (.error f, s)
      | .ok seen =>
        match s.providers.get? r.id with
        | some old => (.ok (refreshed seen r old), s.put (refreshed seen r old))
        | none => (.ok (newRecord p seen r), s.put (newRecord p seen r)) := by
  rw [register, Attempt.bind_of_ok (find?_shelf r.id s), Attempt.bind_apply, Attempt.ofExcept_apply]
  cases stamp now with
  | error f => rfl
  | ok seen =>
    refine (Attempt.bind_of_ok (save_shelf s _)).trans ?_
    cases s.providers.get? r.id <;> rfl

theorem updateStatus_shelf (status : Status) :
    updateStatus shelfStore id status s =
      match s.providers.get? id with
      | some old => (.ok { old with status }, s.put { old with status })
      | none => (.error (.refused (.providerNotFound id)), s) := by
  rw [updateStatus, Attempt.bind_apply, require_shelf]
  cases s.providers.get? id with
  | none => rfl
  | some old => exact Attempt.bind_of_ok (save_shelf ..)

theorem heartbeat_shelf (status : Option Status) :
    heartbeat shelfStore now id status s =
      match s.providers.get? id with
      | none => (.error (.refused (.providerNotFound id)), s)
      | some old =>
        match stamp now with
        | .error f => (.error f, s)
        | .ok seen => (.ok (revived seen status old), s.put (revived seen status old)) := by
  rw [heartbeat, Attempt.bind_apply, require_shelf]
  cases s.providers.get? id with
  | none => rfl
  | some old =>
    show (Attempt.ofExcept (stamp now) >>= _) s = _
    rw [Attempt.bind_apply, Attempt.ofExcept_apply]
    cases stamp now with
    | error f => rfl
    | ok seen => exact Attempt.bind_of_ok (save_shelf ..)

theorem applyDelta_shelf (delta : Binary64) (reason jobId : Option Text) :
    applyDelta shelfStore now id delta reason jobId s =
      if delta.isFinite then
        match s.providers.get? id with
        | none => (.error (.refused (.providerNotFound id)), s)
        | some old =>
          match stamp now with
          | .error f => (.error f, s.put (rescored delta old))
          | .ok applied =>
            (.ok (rescored delta old), (s.put (rescored delta old)).enter
              (changeOf id delta reason jobId old applied))
      else (.error (.refused (.invalidConfiguration (.reputationDelta delta))), s) := by
  rw [applyDelta]
  cases delta.isFinite with
  | false => rfl
  | true =>
    rw [Bool.not_true, if_neg (by decide), if_pos rfl, Attempt.bind_apply, require_shelf]
    cases s.providers.get? id with
    | none => rfl
    | some old =>
      refine (Attempt.bind_of_ok (save_shelf s (rescored delta old))).trans ?_
      rw [Attempt.bind_apply, Attempt.ofExcept_apply]
      cases stamp now with
      | error f => rfl
      | ok applied => exact Attempt.bind_of_ok (append_shelf ..)

end

/-! ## Silent providers -/

section

variable {before : Moment} {s : Shelf}

theorem isSilent_of_timed {r : Record} (h : r.lastSeen.moment?.isSome = true) :
    isSilent before r = .ok (silentAt before r) := by
  obtain ⟨seen, hseen⟩ := Option.isSome_iff_exists.1 h
  unfold isSilent silentAt
  by_cases hoffline : r.status = .offline <;> simp [hoffline, hseen]

theorem markOne_shelf (before : Moment) {r : Record} (hget : s.providers.get? r.id = some r)
    (htimed : r.lastSeen.moment?.isSome = true) :
    markOne shelfStore before r s =
      if silentAt before r then (.ok (some r.id), s.put { r with status := .offline })
      else (.ok none, s) := by
  have hfind : shelfStore.find? r.id s = (.ok (some r), s) := by rw [← hget]; rfl
  simp only [markOne, Attempt.bind_apply, Attempt.ofExcept_apply, isSilent_of_timed htimed]
  cases hsilent : silentAt before r with
  | false => rfl
  | true =>
    simp only [Bool.not_true, Bool.false_eq_true, if_false, if_true, Attempt.bind_apply, hfind,
      Attempt.ofExcept_apply, isSilent_of_timed htimed, hsilent]
    rfl

/-- The identifiers of the silent ones of some listed providers. -/
def silentIds (before : Moment) (listed : List Record) : List Text :=
  (listed.filter (silentAt before)).map (·.id)

/-- Of providers that are listed once and stored as they are listed, the silent ones are taken
offline in their places, and nothing else is changed. -/
theorem markEach_shelf (before : Moment) {listed : List Record} (hnodup : (listed.map (·.id)).Nodup)
    (hstored : ∀ r ∈ listed, s.providers.get? r.id = some r ∧
      r.lastSeen.moment?.isSome = true) :
    ∃ t, markEach shelfStore before listed s = (.ok (silentIds before listed), t) ∧
      t.changes = s.changes ∧ t.providers.keys = s.providers.keys ∧ ∀ id, t.providers.get? id =
        if id ∈ silentIds before listed
        then (s.providers.get? id).map fun r => { r with status := .offline }
        else s.providers.get? id := by
  induction listed generalizing s with
  | nil => exact ⟨s, rfl, rfl, rfl, fun id => by simp [silentIds]⟩
  | cons r rest ih =>
    rw [List.map_cons, List.nodup_cons] at hnodup
    obtain ⟨hget, htimed⟩ := hstored r (List.mem_cons_self ..)
    have hone := markOne_shelf before hget htimed
    cases hsilent : silentAt before r with
    | false =>
      rw [hsilent, if_neg (by decide)] at hone
      obtain ⟨t, hrest, hchanges, hkeys, hview⟩ :=
        ih hnodup.2 fun r' hr' => hstored r' (List.mem_cons_of_mem _ hr')
      have hids : silentIds before (r :: rest) = silentIds before rest := by
        simp [silentIds, hsilent]
      refine ⟨t, ?_, hchanges, hkeys, ?_⟩
      · rw [markEach, Attempt.bind_of_ok hone, Attempt.bind_of_ok hrest, hids]
        rfl
      · rw [hids]
        exact hview
    | true =>
      rw [hsilent, if_pos rfl] at hone
      -- the rest are other providers, so they are still stored as they are listed
      have hother : ∀ r' ∈ rest, r'.id ≠ r.id := fun r' hr' heq =>
        hnodup.1 (List.mem_map.2 ⟨r', hr', heq⟩)
      have hkept : (s.put { r with status := .offline }).providers.keys = s.providers.keys :=
        OrderedMap.keys_insert_of_mem (OrderedMap.mem_keys_of_get? hget) _
      obtain ⟨t, hrest, hchanges, hkeys, hview⟩ :=
        ih (s := s.put { r with status := .offline }) hnodup.2 fun r' hr' => by
          rw [Shelf.get?_put, if_neg (hother r' hr')]
          exact hstored r' (List.mem_cons_of_mem _ hr')
      have hids : silentIds before (r :: rest) = r.id :: silentIds before rest := by
        simp [silentIds, hsilent]
      refine ⟨t, ?_, hchanges, hkeys.trans hkept, ?_⟩
      · rw [markEach, Attempt.bind_of_ok hone, Attempt.bind_of_ok hrest, hids]
        rfl
      · intro id
        rw [hview id, hids, Shelf.get?_put]
        by_cases hid : id = r.id
        · have hnot : r.id ∉ silentIds before rest := by
            rintro hmem
            obtain ⟨r', hr', heq⟩ := List.mem_map.1 hmem
            exact hother r' (List.mem_filter.1 hr').1 heq
          rw [hid, if_neg hnot, if_pos rfl, if_pos (List.mem_cons_self ..), hget]
          rfl
        · simp only [hid, if_false, List.mem_cons, false_or]

theorem Shelf.IsTidy.mem_silentIds_iff (hs : s.IsTidy) {id : Text} :
    id ∈ silentIds before s.providers.values ↔
      (s.providers.get? id).any (silentAt before) = true := by
  constructor
  · intro hmem
    obtain ⟨r, hr, rfl⟩ := List.mem_map.1 hmem
    obtain ⟨hlisted, hsilent⟩ := List.mem_filter.1 hr
    rw [(hs.listed r hlisted).1, Option.any_some, hsilent]
  · intro hany
    obtain ⟨r, hget, hsilent⟩ := (Option.any_eq_true ..).1 hany
    refine List.mem_map.2 ⟨r, List.mem_filter.2 ⟨OrderedMap.mem_values_of_get? hget, hsilent⟩, ?_⟩
    exact hs.filed id r hget

/-- A search takes the silent providers offline, each in its place and as if it were alone. -/
theorem markSilent_shelf (before : Moment) (hs : s.IsTidy) :
    ∃ t, markSilent shelfStore before s = (.ok (silentIds before s.providers.values), t) ∧
      t.changes = s.changes ∧ t.providers.keys = s.providers.keys ∧
      ∀ id, t.providers.get? id = (s.providers.get? id).map (settled before) := by
  obtain ⟨t, hmarked, hchanges, hkeys, hview⟩ := markEach_shelf before hs.nodup_ids hs.listed
  refine ⟨t, hmarked, hchanges, hkeys, ?_⟩
  intro id
  rw [hview id]
  simp only [hs.mem_silentIds_iff]
  cases s.providers.get? id with
  | none => rfl
  | some r =>
    rw [Option.any_some, Option.map_some, Option.map_some, settled]
    split <;> rfl

/-- A search looks for the providers that are silent since the cutoff. -/
theorem markStaleAt_of_cutoff {σ : Type} (store : ProviderStore σ) {p : Policy} {shown : Moment}
    (hbefore : cutoff p shown = .ok before) (ahead : Int) :
    markStaleAt store p shown ahead = markSilent store (before - ahead) := by
  rw [markStaleAt, hbefore]
  rfl

theorem markStaleAt_of_soughtSince {σ : Type} (store : ProviderStore σ) {p : Policy} {now : Moment}
    {given : Option (Moment × Int)} (hsince : soughtSince p now given = .ok before) :
    markStaleAt store p (soughtAt now given).1 (soughtAt now given).2 = markSilent store before := by
  rw [soughtSince] at hsince
  cases hcutoff : cutoff p (soughtAt now given).1 with
  | error fault =>
    rw [hcutoff] at hsince
    cases hsince
  | ok latest =>
    rw [hcutoff] at hsince
    cases hsince
    exact markStaleAt_of_cutoff store hcutoff _

/-- A search that cannot tell how long providers may be silent does nothing. -/
theorem markStaleAt_shelf_of_error {p : Policy} {now : Moment} {given : Option (Moment × Int)}
    {fault : Moment.Fault} (hsince : soughtSince p now given = .error fault) :
    markStaleAt shelfStore p (soughtAt now given).1 (soughtAt now given).2 s =
      (.error (.time fault), s) := by
  rw [soughtSince] at hsince
  rw [markStaleAt]
  cases hcutoff : cutoff p (soughtAt now given).1 with
  | error fault =>
    rw [hcutoff] at hsince
    cases hsince
    rfl
  | ok latest =>
    rw [hcutoff] at hsince
    cases hsince

/-- Of the providers that a search names, one is named if it was silent. -/
theorem Shelf.IsTidy.filter_silentIds (hs : s.IsTidy) (id : Text) :
    (silentIds before s.providers.values).filter (· = id) =
      if (s.providers.get? id).any (silentAt before) then [id] else [] := by
  have hnodup : (silentIds before s.providers.values).Nodup :=
    hs.nodup_ids.sublist (List.filter_sublist.map _)
  rw [List.filter_eq, hnodup.count]
  simp only [hs.mem_silentIds_iff]
  split <;> rfl

end

/-! ## What a call does to one provider -/

section

variable (p : Policy) (now : Moment) {call : Call} {id target : Text} {s : Shelf}

/-- A call that is addressed to a provider makes its share the whole of what happens. -/
theorem perform_addressed (htarget : call.provider? = some target) (hs : s.IsTidy) :
    perform shelfStore p now call s =
      ((call.share p now target (s.providers.get? target)).outcome,
        (call.share p now target (s.providers.get? target)).onto target s) := by
  cases call with
  | register r =>
    obtain rfl := Option.some.inj htarget
    rw [perform, Call.share, Attempt.map_apply, register_shelf]
    cases stamp now with
    | error f => exact congrArg (Prod.mk _) (Share.onto_refused rfl f).symm
    | ok seen =>
      cases hget : s.providers.get? r.id with
      | none => exact congrArg (Prod.mk _) (Share.onto_stored rfl).symm
      | some old =>
        have hid : (refreshed seen r old).id = r.id := hs.filed _ old hget
        exact congrArg (Prod.mk _) (Share.onto_stored hid).symm
  | deregister target =>
    obtain rfl := Option.some.inj htarget
    exact congrArg (Prod.mk _) (Share.onto_removed s target _).symm
  | updateStatus target status =>
    obtain rfl := Option.some.inj htarget
    rw [perform, Call.share, Attempt.map_apply, updateStatus_shelf]
    cases hget : s.providers.get? target with
    | none => exact congrArg (Prod.mk _) (Share.onto_refused hget _).symm
    | some old =>
      have hid : Record.id { old with status } = target := hs.filed _ old hget
      exact congrArg (Prod.mk _) (Share.onto_stored hid).symm
  | heartbeat target status =>
    obtain rfl := Option.some.inj htarget
    rw [perform, Call.share, Attempt.map_apply, heartbeat_shelf]
    cases hget : s.providers.get? target with
    | none => exact congrArg (Prod.mk _) (Share.onto_refused hget _).symm
    | some old =>
      cases stamp now with
      | error f => exact congrArg (Prod.mk _) (Share.onto_refused hget f).symm
      | ok seen =>
        have hid : (revived seen status old).id = target := hs.filed _ old hget
        exact congrArg (Prod.mk _) (Share.onto_stored hid).symm
  | applyDelta target delta reason jobId =>
    obtain rfl := Option.some.inj htarget
    rw [perform, Call.share, Attempt.map_apply, applyDelta_shelf]
    cases delta.isFinite with
    | false => exact congrArg (Prod.mk _) (Share.onto_refused rfl _).symm
    | true =>
      rw [if_pos rfl, if_pos rfl]
      cases hget : s.providers.get? target with
      | none => exact congrArg (Prod.mk _) (Share.onto_refused hget _).symm
      | some old =>
        have hid : (rescored delta old).id = target := hs.filed _ old hget
        cases stamp now with
        | error f => exact congrArg (Prod.mk _) (Share.onto_saved hid _).symm
        | ok applied => exact congrArg (Prod.mk _) (Share.onto_applied hid _ _).symm
  | markStale given => cases htarget

/-- The share of a provider is about that provider, whatever the call is. -/
theorem Call.share_fits (call : Call) (id : Text) (found : Option Record) :
    (call.share p now id found).Fits id found := by
  cases call with
  | register r =>
    rw [Call.share]
    cases hstamp : stamp now with
    | error f => exact Share.fits_refused f
    | ok seen =>
      have hseen := moment?_isSome_of_stamp hstamp
      cases found with
      | none => exact Share.fits_stored fun _ => hseen
      | some old => exact Share.fits_stored fun _ => hseen
  | deregister _ => exact ⟨rfl, by rintro c ⟨⟩, by rintro - r ⟨⟩⟩
  | updateStatus _ status =>
    exact Share.fits_required fun old hold => Share.fits_stored fun htimed => htimed old hold
  | heartbeat _ status =>
    refine Share.fits_required fun old hold => ?_
    cases hstamp : stamp now with
    | error f => exact Share.fits_refused f
    | ok seen => exact Share.fits_stored fun _ => moment?_isSome_of_stamp hstamp
  | applyDelta _ delta reason jobId =>
    rw [Call.share]
    split
    · refine Share.fits_required fun old hold => ?_
      have htimed : (∀ r, found = some r → r.lastSeen.moment?.isSome = true) →
          ∀ r, some (rescored delta old) = some r → r.lastSeen.moment?.isSome = true := by
        rintro hfound r ⟨⟩
        exact hfound old hold
      cases stamp now with
      | error f => exact ⟨rfl, by rintro c ⟨⟩, htimed⟩
      | ok applied =>
        refine ⟨rfl, ?_, htimed⟩
        intro c hc
        rw [List.mem_singleton.1 hc, changeOf]
    · exact Share.fits_refused _
  | markStale given =>
    rw [Call.share]
    cases soughtSince p now given with
    | error fault => exact Share.fits_refused _
    | ok before =>
      refine ⟨?_, by rintro c ⟨⟩, ?_⟩
      · refine congrArg (fun ids => Except.ok (Reply.marked ids)) ?_
        split
        · exact List.filter_eq_self.2 fun _ hother => decide_eq_true (List.mem_singleton.1 hother)
        · rfl
      · intro htimed r hr
        obtain ⟨old, hold, rfl⟩ := Option.map_eq_some_iff.1 hr
        rw [settled]
        split <;> exact htimed old hold

/-- A call that concerns a provider does to it what its share is, whatever it does to others. -/
theorem perform_share (hcall : call.concerns id = true) (hs : s.IsTidy) :
    (perform shelfStore p now call s).1.map (Reply.seenBy id) =
        (call.share p now id (s.providers.get? id)).outcome ∧
      (perform shelfStore p now call s).2.providers.get? id =
        (call.share p now id (s.providers.get? id)).record? ∧
      (perform shelfStore p now call s).2.history id =
        s.history id ++ (call.share p now id (s.providers.get? id)).entered := by
  cases htarget : call.provider? with
  | some target =>
    obtain rfl : target = id := by
      rw [Call.concerns, htarget, Option.all_some, decide_eq_true_eq] at hcall
      exact hcall
    rw [perform_addressed p now htarget hs]
    have hfits := call.share_fits p now target (s.providers.get? target)
    refine ⟨hfits.seen, ?_, ?_⟩
    · rw [Share.get?_onto, if_pos rfl]
    · rw [Share.history_onto, List.filter_eq_self.2 fun c hc => ?_]
      rw [hfits.owned c hc, decide_eq_true_eq]
  | none =>
    obtain ⟨given, rfl⟩ := Call.eq_markStale_of_provider? htarget
    rw [perform, Attempt.map_apply, Call.share]
    cases hsince : soughtSince p now given with
    | error fault =>
      rw [markStaleAt_shelf_of_error hsince]
      exact ⟨rfl, rfl, (List.append_nil _).symm⟩
    | ok before =>
      obtain ⟨t, hmarked, hchanges, -, hview⟩ := markSilent_shelf before hs
      rw [markStaleAt_of_soughtSince shelfStore hsince, hmarked]
      refine ⟨?_, hview id, ?_⟩
      · exact congrArg (fun ids => Except.ok (Reply.marked ids)) (hs.filter_silentIds id)
      · rw [List.append_nil, Shelf.history, Shelf.history, hchanges]

/-- A call that does not concern a provider leaves its record and its history alone. -/
theorem perform_of_not_concerns (hcall : call.concerns id = false) (hs : s.IsTidy) :
    (perform shelfStore p now call s).2.providers.get? id = s.providers.get? id ∧
      (perform shelfStore p now call s).2.history id = s.history id := by
  cases htarget : call.provider? with
  | none =>
    rw [Call.concerns, htarget] at hcall
    cases hcall
  | some target =>
    have hother : ¬ id = target := by
      rw [Call.concerns, htarget, Option.all_some, decide_eq_false_iff_not] at hcall
      exact fun heq => hcall heq.symm
    rw [perform_addressed p now htarget hs]
    refine ⟨?_, ?_⟩
    · rw [Share.get?_onto, if_neg hother]
    · rw [Share.history_onto, List.filter_eq_nil_iff.2 fun c hc => ?_, List.append_nil]
      rw [(call.share_fits p now target _).owned c hc, decide_eq_true_eq]
      exact fun heq => hother heq.symm

/-- Every call leaves a shelf tidy. -/
theorem isTidy_perform (hs : s.IsTidy) (call : Call) :
    (perform shelfStore p now call s).2.IsTidy := by
  refine ⟨?_, ?_⟩
  · exact (perform_agrees shelfStore_keepsFiled p now call s s ⟨rfl, hs.filed⟩).2.2
  · intro id r hget
    cases hcall : call.concerns id with
    | true =>
      rw [(perform_share p now hcall hs).2.1] at hget
      exact (call.share_fits p now id _).timed (hs.timed id) r hget
    | false =>
      rw [(perform_of_not_concerns p now hcall hs).1] at hget
      exact hs.timed id r hget

end

end ComputeDirectory.Registry
