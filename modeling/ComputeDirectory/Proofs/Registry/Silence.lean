import ComputeDirectory.Proofs.Registry.Enrolment

/-!
# Silent providers

A search takes exactly the providers offline that gave no sign of life since the cutoff, and names
them in the order of their registration: `silent_providers_marked`. What counts is the latest sign of
life in the run, which is when the record was last seen (`moment?_lastSeen_final`), and not how the
provider got its status. The search writes to the list that it goes through, but only to records that
it has passed (`markEach_shelf`), and a record that it has settled is not silent any more.
-/

namespace ComputeDirectory.Registry

open Provider (Record Registration)

/-- A span between two moments of the calendar is not too long to be counted. -/
theorem checkSpan_of_sub {moment span : Int} (hmoment : Moment.isInCalendar moment = true)
    (hsub : Moment.isInCalendar (moment - span) = true) : Moment.checkSpan span = .ok span := by
  have hseconds : Moment.seconds moment = moment / 1000000 := rfl
  have hseconds' : Moment.seconds (moment - span) = (moment - span) / 1000000 := rfl
  simp only [Moment.isInCalendar, Bool.and_eq_true, decide_eq_true_eq] at hmoment hsub
  have hword : ¬ (span / Moment.dayLength < -2147483648 ∨ 2147483647 < span / Moment.dayLength) := by
    unfold Moment.dayLength
    omega
  have hcount : ¬ 999999999 < (span / Moment.dayLength).natAbs := by
    unfold Moment.dayLength
    omega
  simp only [Moment.checkSpan, hword, hcount, if_false]

/-- The cutoff is the timeout before what the clock shows, if that lies in the calendar. -/
theorem cutoff_of_isInCalendar {p : Policy} {shown : Moment} (hshown : shown.isInCalendar = true)
    (hbefore : (shown - Moment.ofSeconds p.heartbeatTimeout).isInCalendar = true) :
    cutoff p shown = .ok (shown - Moment.ofSeconds p.heartbeatTimeout) := by
  rw [cutoff, Moment.placed_eq_ok_iff.2 ⟨rfl, hshown⟩, checkSpan_of_sub hshown hbefore]
  exact if_pos hbefore

/-! ## One search -/

/-- What a search for providers that are silent since a moment makes of a shelf: whom it names, and
what it leaves. -/
structure Marks (past : List (Step Shelf)) (before : Moment) (s : Shelf) (ids : List Text)
    (t : Shelf) : Prop where
  /-- They are named in the order in which they registered. -/
  order : ids.Sublist (enrolment past)
  nodup : ids.Nodup
  silent : ∀ id, id ∈ ids ↔ ∃ r sign, s.providers.get? id = some r ∧ r.status ≠ .offline ∧
    lastSign? id past = some sign ∧ sign < before
  records : ∀ id, t.providers.get? id =
    (s.providers.get? id).map fun r => if id ∈ ids then { r with status := .offline } else r
  listing : t.listing = s.listing
  changes : t.changes = s.changes

section

variable {before : Moment} {s t : Shelf}

/-- A settled record is not silent. -/
theorem silentAt_settled (before : Moment) (r : Record) :
    silentAt before (settled before r) = false := by
  rw [settled]
  split
  · rfl
  · next hsilent => exact Bool.eq_false_iff.2 hsilent

theorem settled_settled (before : Moment) (r : Record) :
    settled before (settled before r) = settled before r := by
  rw [settled, silentAt_settled, if_neg Bool.false_ne_true]

theorem Shelf.IsTidy.of_settled (hs : s.IsTidy)
    (hview : ∀ id, t.providers.get? id = (s.providers.get? id).map (settled before)) : t.IsTidy where
  filed := by
    intro id r hget
    rw [hview] at hget
    obtain ⟨old, hold, rfl⟩ := Option.map_eq_some_iff.1 hget
    rw [settled_id]
    exact hs.filed id old hold
  timed := by
    intro id r hget
    rw [hview] at hget
    obtain ⟨old, hold, rfl⟩ := Option.map_eq_some_iff.1 hget
    rw [settled_lastSeen]
    exact hs.timed id old hold

/-- A search finds nobody right after another one with the same cutoff, and leaves all as it is. -/
theorem markSilent_settled (ht : t.IsTidy)
    (hview : ∀ id, t.providers.get? id = (s.providers.get? id).map (settled before)) :
    markSilent shelfStore before t = (.ok [], t) := by
  obtain ⟨u, hmarked, hchanges, hkeys, hafter⟩ := markSilent_shelf before ht
  have hnobody : silentIds before t.providers.values = [] := by
    refine List.eq_nil_iff_forall_not_mem.2 fun id hid => ?_
    obtain ⟨r, hget, hsilent⟩ := (Option.any_eq_true ..).1 (ht.mem_silentIds_iff.1 hid)
    rw [hview] at hget
    obtain ⟨old, -, rfl⟩ := Option.map_eq_some_iff.1 hget
    rw [silentAt_settled] at hsilent
    cases hsilent
  have hproviders : u.providers = t.providers := by
    refine OrderedMap.eq_of_get? hkeys fun id => ?_
    rw [hafter, hview]
    cases s.providers.get? id with
    | none => rfl
    | some r => exact congrArg some (settled_settled before r)
  have hsame : u = t := congrArg₂ Shelf.mk hproviders hchanges
  rw [hmarked, hnobody, hsame]

/-- If records tell the latest signs of life, a search marks whoever gave none since the cutoff. -/
theorem markSilent_marks {past : List (Step Shelf)} (before : Moment) (hs : s.IsTidy)
    (hseen : ∀ id r, s.providers.get? id = some r → r.lastSeen.moment? = lastSign? id past)
    (hlist : s.listing = (enrolment past).filter s.providers.contains) :
    ∃ ids t, Marks past before s ids t ∧ markSilent shelfStore before s = (.ok ids, t) ∧
      markSilent shelfStore before t = (.ok [], t) := by
  obtain ⟨t, hmarked, hchanges, hkeys, hview⟩ := markSilent_shelf before hs
  have ht : t.IsTidy := hs.of_settled hview
  have hids : (silentIds before s.providers.values).Sublist s.listing := List.filter_sublist.map _
  refine ⟨_, t, ?_, hmarked, markSilent_settled ht hview⟩
  refine ⟨hids.trans ?_, hs.nodup_ids.sublist hids, fun id => ?_, fun id => ?_, ?_, hchanges⟩
  · rw [hlist]
    exact List.filter_sublist
  · rw [hs.mem_silentIds_iff, Option.any_eq_true]
    refine exists_congr fun r => ?_
    constructor
    · rintro ⟨hget, hsilent⟩
      rw [silentAt, Bool.and_eq_true, decide_eq_true_eq, hseen id r hget, Option.any_eq_true]
        at hsilent
      obtain ⟨hstatus, sign, hsign, hearly⟩ := hsilent
      exact ⟨sign, hget, hstatus, hsign, of_decide_eq_true hearly⟩
    · rintro ⟨sign, hget, hstatus, hsign, hearly⟩
      refine ⟨hget, ?_⟩
      rw [silentAt, hseen id r hget, hsign]
      simp [hstatus, hearly]
  · rw [hview]
    cases hget : s.providers.get? id with
    | none => rfl
    | some r =>
      have hmem : id ∈ silentIds before s.providers.values ↔ silentAt before r = true := by
        rw [hs.mem_silentIds_iff, hget, Option.any_some]
      simp only [Option.map_some, hmem, settled]
  · rw [ht.listing_eq_keys, hkeys, hs.listing_eq_keys]

end

/-! ## Main statement -/

/-- Exactly the silent providers are marked. After every run of operations, a search at the time that
a clock of any offset shows marks the providers that are registered, are not offline and gave their
latest sign of life before the timeout: it names them once each in the order of registration, takes
them offline and changes nothing else. A second search at the same time marks nobody. The timeout
before the time has to lie in the calendar. -/
theorem silent_providers_marked (p : Policy) (operations : List (Moment × Operation))
    {shown : Moment} (hshown : shown.isInCalendar = true)
    (hbefore : (shown - Moment.ofSeconds p.heartbeatTimeout).isInCalendar = true) (ahead : Int) :
    ∃ ids t,
      Marks (pastOf p operations) (shown - Moment.ofSeconds p.heartbeatTimeout - ahead)
        (shelfAfter p operations) ids t ∧
      markStaleAt shelfStore p shown ahead (shelfAfter p operations) = (.ok ids, t) ∧
      markStaleAt shelfStore p shown ahead t = (.ok [], t) ∧
      (ahead = 0 → markStale shelfStore p shown (shelfAfter p operations) = (.ok ids, t)) := by
  obtain ⟨hs, hseen⟩ := moment?_lastSeen_final p (callsOf operations)
  obtain ⟨-, hlist⟩ := listing_final p (callsOf operations)
  have hcutoff := cutoff_of_isInCalendar hshown hbefore
  rw [pastOf, shelfAfter_eq_final, markStaleAt_of_cutoff shelfStore hcutoff]
  obtain ⟨ids, t, hmarks, hmarked, hagain⟩ := markSilent_marks
    (shown - Moment.ofSeconds p.heartbeatTimeout - ahead) hs hseen hlist
  refine ⟨ids, t, hmarks, hmarked, hagain, ?_⟩
  rintro rfl
  rw [markStale, markStaleAt_of_cutoff shelfStore hcutoff]
  exact hmarked

/-- Two providers register, one gives a heartbeat and the other one only gets another status. A
hundred seconds later, by a clock that is an hour ahead, the other one is silent. -/
theorem silent_providers_marked_sample :
    let p : Policy := ⟨60, .nan⟩
    let other : Registration := { sampleRegistration with id := "cpu" }
    let operations : List (Moment × Operation) :=
      [(0, .call (.register sampleRegistration)), (0, .call (.register other)),
        (50000000, .call (.heartbeat "gpu" none)), (90000000, .call (.updateStatus "cpu" .busy)),
        (90000000, .get "cpu")]
    let shown : Moment := 3700000000
    shown.isInCalendar = true ∧ (shown - Moment.ofSeconds p.heartbeatTimeout).isInCalendar = true ∧
      ∃ t, Marks (pastOf p operations) 40000000 (shelfAfter p operations) ["cpu"] t ∧
        markStaleAt shelfStore p shown 3600000000 (shelfAfter p operations) = (.ok ["cpu"], t) ∧
        markStaleAt shelfStore p shown 3600000000 t = (.ok [], t) := by
  intro p other operations shown
  have hshown : shown.isInCalendar = true := by decide
  have hbefore : (shown - Moment.ofSeconds p.heartbeatTimeout).isInCalendar = true := by decide
  obtain ⟨ids, t, hmarks, hmarked, hagain, -⟩ :=
    silent_providers_marked p operations hshown hbefore 3600000000
  have hids : (markStaleAt shelfStore p shown 3600000000 (shelfAfter p operations)).1.toOption =
      some (["cpu"] : List Text) := by decide +kernel
  rw [hmarked] at hids
  obtain rfl := Option.some.inj hids
  exact ⟨hshown, hbefore, t, hmarks, hmarked, hagain⟩

end ComputeDirectory.Registry
