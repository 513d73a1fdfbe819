import ComputeDirectory.Identity.Issuer

/-!
# What the operations of an issuer do

An issuer is looked at through three views: `get?` for the pending challenges, `isConsumed` for the
markers, and the two counters. The lemmas below say what registering, claiming, invalidating and
sweeping do to each of them, so that nothing after this module opens those definitions.

A sweep only ever takes away: `get?_sweep` and `isConsumed_sweep` name exactly what stays.
-/

namespace ComputeDirectory.Identity.Issuer

/-! ## Sweeping -/

theorem not_isExpired_iff {c : Challenge} {now : Int} :
    (!c.isExpired now) = true ↔ now ≤ c.expiresAt := by
  simp [Challenge.isExpired]

theorem not_isStale_iff {p : Policy} {now expiresAt : Int} :
    (!isStale p now expiresAt) = true ↔ now ≤ expiresAt + p.retention := by
  simp [isStale]

/-- A sweep keeps the pending challenges that have not expired. -/
theorem get?_sweep (p : Policy) (now : Int) (s : Issuer) (id : Text) :
    (s.sweep p now).2.get? id = (s.get? id).filter fun c => !c.isExpired now :=
  s.pending.get?_filter _ id

/-- A sweep keeps the markers that are not stale. -/
theorem isConsumed_sweep (p : Policy) (now : Int) (s : Issuer) (id : Text) :
    (s.sweep p now).2.isConsumed id =
      (s.consumed.get? id).any fun expiresAt => !isStale p now expiresAt := by
  show ((s.consumed.filter fun _ expiresAt => !isStale p now expiresAt).get? id).isSome = _
  rw [OrderedMap.get?_filter, Option.isSome_filter]

/-- The expiries of the markers that stay are those they had. -/
theorem get?_consumed_sweep (p : Policy) (now : Int) (s : Issuer) (id : Text) :
    (s.sweep p now).2.consumed.get? id =
      (s.consumed.get? id).filter fun expiresAt => !isStale p now expiresAt :=
  s.consumed.get?_filter _ id

@[simp] theorem issuedSinceSweep_sweep (p : Policy) (now : Int) (s : Issuer) :
    (s.sweep p now).2.issuedSinceSweep = 0 := rfl

@[simp] theorem drawn_sweep (p : Policy) (now : Int) (s : Issuer) :
    (s.sweep p now).2.drawn = s.drawn := rfl

theorem get?_of_get?_sweep {p : Policy} {now : Int} {s : Issuer} {id : Text} {c : Challenge}
    (h : (s.sweep p now).2.get? id = some c) : s.get? id = some c := by
  rw [get?_sweep, Option.filter_eq_some_iff] at h
  exact h.1

theorem get?_sweep_of_get? {p : Policy} {now : Int} {s : Issuer} {id : Text} {c : Challenge}
    (h : s.get? id = some c) (hlive : now ≤ c.expiresAt) :
    (s.sweep p now).2.get? id = some c := by
  have hkeep : c.isExpired now = false := by simpa [Challenge.isExpired] using hlive
  rw [get?_sweep, h, Option.filter_some_pos (by rw [hkeep]; rfl)]

theorem isConsumed_of_isConsumed_sweep {p : Policy} {now : Int} {s : Issuer} {id : Text}
    (h : (s.sweep p now).2.isConsumed id = true) : s.isConsumed id = true := by
  rw [isConsumed_sweep, Option.any_eq_true] at h
  obtain ⟨expiresAt, hmarker, -⟩ := h
  show (s.consumed.get? id).isSome = true
  rw [hmarker]
  rfl

/-- A sweep keeps a pending challenge as it is, or drops it. -/
theorem get?_sweep_or (p : Policy) (now : Int) (s : Issuer) (id : Text) :
    (s.sweep p now).2.get? id = s.get? id ∨ (s.sweep p now).2.get? id = none := by
  cases h : (s.sweep p now).2.get? id with
  | none => exact .inr rfl
  | some c => exact .inl (get?_of_get?_sweep h).symm

/-- A sweep keeps a marker, or drops it. -/
theorem isConsumed_sweep_or (p : Policy) (now : Int) (s : Issuer) (id : Text) :
    (s.sweep p now).2.isConsumed id = s.isConsumed id ∨ (s.sweep p now).2.isConsumed id = false := by
  cases h : (s.sweep p now).2.isConsumed id with
  | false => exact .inr rfl
  | true => exact .inl (isConsumed_of_isConsumed_sweep h).symm

/-- What a sweep drops had expired. -/
theorem expired_of_get?_sweep {p : Policy} {now : Int} {s : Issuer} {id : Text} {c : Challenge}
    (h : s.get? id = some c) (hdropped : (s.sweep p now).2.get? id = none) : c.expiresAt < now := by
  refine Int.not_le.1 fun hlive => ?_
  rw [get?_sweep_of_get? h hlive] at hdropped
  cases hdropped

/-- A sweep happens at the second that the clock shows, and nothing happens when it shows none. -/
theorem sweepNow_eq (p : Policy) (now : Moment) (s : Issuer) :
    sweepNow p now s =
      match p.second now with
      | .error f => (.error f, s)
      | .ok second => (.ok (s.sweep p second).1, (s.sweep p second).2) := by
  rw [sweepNow]
  cases p.second now <;> rfl

/-! ## Registering -/

/-- The challenge that is registered next. -/
def nextChallenge (p : Policy) (now : Int) (serverKey claimantKey : Text) (lifetime : Int)
    (s : Issuer) : Challenge :=
  ⟨p.token s.drawn, serverKey, claimantKey, now, now + lifetime⟩

@[simp] theorem nextChallenge_id (p : Policy) (now : Int) (serverKey claimantKey : Text)
    (lifetime : Int) (s : Issuer) :
    (s.nextChallenge p now serverKey claimantKey lifetime).id = p.token s.drawn := rfl

/-- Files a challenge under its identifier, before any sweep. -/
def file (c : Challenge) (s : Issuer) : Issuer where
  pending := s.pending.insert c.id c
  consumed := s.consumed
  issuedSinceSweep := s.issuedSinceSweep + 1
  drawn := s.drawn + 1

/-- Whether the next challenge registered brings a sweep with it. One whose lifetime cannot be
written never does. -/
def SweepsNext (p : Policy) (lifetime : Int) (s : Issuer) : Prop :=
  Json.isShort lifetime = true ∧ p.sweepEvery ≤ (s.issuedSinceSweep + 1 : Nat)

instance (p : Policy) (lifetime : Int) (s : Issuer) : Decidable (s.SweepsNext p lifetime) :=
  inferInstanceAs (Decidable (Json.isShort lifetime = true ∧ p.sweepEvery ≤ _))

theorem sweepsNext_iff {p : Policy} {lifetime : Int} {s : Issuer}
    (hshort : Json.isShort lifetime = true) :
    s.SweepsNext p lifetime ↔ p.sweepEvery ≤ s.issuedSinceSweep + 1 := by
  rw [SweepsNext, Int.natCast_add, Int.natCast_one]
  exact and_iff_right hshort

/-- A registered challenge is handed out if its lifetime can be written. -/
def handOut (lifetime : Int) (c : Challenge) : Except Failure Challenge :=
  if Json.isShort lifetime then .ok c else .error .unwritable

theorem eq_of_handOut_eq_ok {lifetime : Int} {c d : Challenge} (h : handOut lifetime c = .ok d) :
    Json.isShort lifetime = true ∧ c = d := by
  unfold handOut at h
  split at h
  · next hshort =>
    cases h
    exact ⟨hshort, rfl⟩
  · cases h

theorem register_eq (p : Policy) (now : Int) (serverKey claimantKey : Text) (lifetime : Int)
    (s : Issuer) :
    s.register p now serverKey claimantKey lifetime =
      let c := s.nextChallenge p now serverKey claimantKey lifetime
      (handOut lifetime c,
        if s.SweepsNext p lifetime then ((s.file c).sweep p now).2 else s.file c) := by
  unfold register handOut
  by_cases hshort : Json.isShort lifetime = true
  · simp only [hshort, if_true, SweepsNext, true_and]
    rfl
  · simp only [hshort, SweepsNext]
    rfl

theorem get?_file (c : Challenge) (s : Issuer) (id : Text) :
    (s.file c).get? id = if id = c.id then some c else s.get? id :=
  s.pending.get?_insert c.id id c

section Register

variable (p : Policy) (now : Int) (serverKey claimantKey : Text) (lifetime : Int) (s : Issuer)

@[simp] theorem drawn_register :
    (s.register p now serverKey claimantKey lifetime).2.drawn = s.drawn + 1 := by
  rw [register_eq]
  by_cases hdue : s.SweepsNext p lifetime <;> simp [hdue, file]

/-- The counter of issues starts again with every sweep. -/
theorem issuedSinceSweep_register :
    (s.register p now serverKey claimantKey lifetime).2.issuedSinceSweep =
      if s.SweepsNext p lifetime then 0 else s.issuedSinceSweep + 1 := by
  rw [register_eq]
  by_cases hdue : s.SweepsNext p lifetime <;> simp [hdue, file]

/-- The challenge just registered is pending, also when its own registration brought a sweep. -/
theorem get?_register_self (hlifetime : 0 < lifetime) :
    (s.register p now serverKey claimantKey lifetime).2.get? (p.token s.drawn) =
      some (s.nextChallenge p now serverKey claimantKey lifetime) := by
  have hfile : (s.file (s.nextChallenge p now serverKey claimantKey lifetime)).get?
      (p.token s.drawn) = some (s.nextChallenge p now serverKey claimantKey lifetime) := by
    rw [get?_file]
    exact if_pos rfl
  rw [register_eq]
  by_cases hdue : s.SweepsNext p lifetime
  · -- the sweep is at the second of the issue, so it is no later than the expiry
    simp only [hdue, if_true]
    refine get?_sweep_of_get? hfile ?_
    show now ≤ now + lifetime
    omega
  · simpa only [hdue, if_false] using hfile

/-- Of the other challenges, those that have not expired stay; without a sweep all do. -/
theorem get?_register_of_ne {id : Text} (hid : id ≠ p.token s.drawn) :
    (s.register p now serverKey claimantKey lifetime).2.get? id =
      if s.SweepsNext p lifetime then (s.get? id).filter fun c => !c.isExpired now else s.get? id := by
  have hfile : (s.file (s.nextChallenge p now serverKey claimantKey lifetime)).get? id =
      s.get? id := by
    rw [get?_file]
    exact if_neg hid
  rw [register_eq]
  by_cases hdue : s.SweepsNext p lifetime
  · simp only [hdue, if_true]
    rw [get?_sweep, hfile]
  · simpa only [hdue, if_false] using hfile

/-- The markers that are not stale stay; without a sweep all do. -/
theorem isConsumed_register (id : Text) :
    (s.register p now serverKey claimantKey lifetime).2.isConsumed id =
      if s.SweepsNext p lifetime then
        (s.consumed.get? id).any fun expiresAt => !isStale p now expiresAt
      else s.isConsumed id := by
  rw [register_eq]
  by_cases hdue : s.SweepsNext p lifetime
  · simp only [hdue, if_true]
    rw [isConsumed_sweep]
    rfl
  · simp only [hdue, if_false]
    rfl

/-- Without a sweep the markers are those there were. -/
theorem consumed_register (hdue : ¬ s.SweepsNext p lifetime) :
    (s.register p now serverKey claimantKey lifetime).2.consumed = s.consumed := by
  rw [register_eq]
  simp only [hdue, if_false]
  rfl

variable {p now serverKey claimantKey lifetime s}

/-- What is pending after a registration was pending before, or was just registered. -/
theorem get?_of_get?_register {id : Text} {c : Challenge}
    (h : (s.register p now serverKey claimantKey lifetime).2.get? id = some c) :
    s.get? id = some c ∨
      (id = p.token s.drawn ∧ c = s.nextChallenge p now serverKey claimantKey lifetime) := by
  have hfile : (s.file (s.nextChallenge p now serverKey claimantKey lifetime)).get? id =
      some c := by
    rw [register_eq] at h
    by_cases hdue : s.SweepsNext p lifetime
    · simp only [hdue, if_true] at h
      exact get?_of_get?_sweep h
    · simpa only [hdue, if_false] using h
  rw [get?_file, nextChallenge_id] at hfile
  by_cases hid : id = p.token s.drawn
  · right
    rw [if_pos hid, Option.some.injEq] at hfile
    exact ⟨hid, hfile.symm⟩
  · left
    rwa [if_neg hid] at hfile

theorem isConsumed_of_isConsumed_register {id : Text}
    (h : (s.register p now serverKey claimantKey lifetime).2.isConsumed id = true) :
    s.isConsumed id = true := by
  rw [register_eq] at h
  by_cases hdue : s.SweepsNext p lifetime
  · simp only [hdue, if_true] at h
    exact isConsumed_of_isConsumed_sweep h
  · simp only [hdue, if_false] at h
    exact h

/-- What a registration drops had expired. -/
theorem expired_of_get?_register {id : Text} {c : Challenge} (hid : id ≠ p.token s.drawn)
    (h : s.get? id = some c)
    (hdropped : (s.register p now serverKey claimantKey lifetime).2.get? id = none) :
    c.expiresAt < now := by
  rw [get?_register_of_ne p now serverKey claimantKey lifetime s hid] at hdropped
  by_cases hdue : s.SweepsNext p lifetime
  · rw [if_pos hdue, ← get?_sweep p] at hdropped
    exact expired_of_get?_sweep h hdropped
  · rw [if_neg hdue, h] at hdropped
    cases hdropped

/-- A registration keeps any other pending challenge as it is, or drops it. -/
theorem get?_register_or {id : Text} (hid : id ≠ p.token s.drawn) :
    (s.register p now serverKey claimantKey lifetime).2.get? id = s.get? id ∨
      (s.register p now serverKey claimantKey lifetime).2.get? id = none := by
  cases h : (s.register p now serverKey claimantKey lifetime).2.get? id with
  | none => exact .inr rfl
  | some c =>
    rcases get?_of_get?_register h with hold | ⟨hnew, -⟩
    · exact .inl hold.symm
    · exact absurd hnew hid

/-- A registration keeps a marker, or drops it. -/
theorem isConsumed_register_or (id : Text) :
    (s.register p now serverKey claimantKey lifetime).2.isConsumed id = s.isConsumed id ∨
      (s.register p now serverKey claimantKey lifetime).2.isConsumed id = false := by
  cases h : (s.register p now serverKey claimantKey lifetime).2.isConsumed id with
  | false => exact .inr rfl
  | true => exact .inl (isConsumed_of_isConsumed_register h).symm

end Register

/-! ## Issuing -/

/-- The second at which a challenge is granted, or why none is. -/
def Policy.grant (p : Policy) (now : Moment) (serverKey claimantKey : Text) (lifetime : Int) :
    Except Failure Int := do
  checkRequest serverKey claimantKey lifetime
  p.second now

theorem Policy.grant_eq_ok {p : Policy} {now : Moment} {serverKey claimantKey : Text}
    {lifetime second : Int} (h : p.grant now serverKey claimantKey lifetime = .ok second) :
    0 < lifetime ∧ p.second now = .ok second := by
  simp only [Policy.grant, checkRequest, bind, Except.bind] at h
  by_cases hlifetime : lifetime ≤ 0
  · rw [if_pos hlifetime] at h
    cases h
  · refine ⟨by omega, ?_⟩
    simp only [hlifetime, if_false] at h
    split at h
    · cases h
    · exact h

theorem Policy.grant_of_isKey {p : Policy} {now : Moment} {serverKey claimantKey : Text}
    {lifetime second : Int} (hlifetime : 0 < lifetime) (hserver : isKey serverKey = true)
    (hclaimant : isKey claimantKey = true) (hsecond : p.second now = .ok second) :
    p.grant now serverKey claimantKey lifetime = .ok second := by
  have hpositive : ¬ lifetime ≤ 0 := by omega
  rw [Policy.grant, checkRequest, if_neg hpositive, hserver, hclaimant]
  exact hsecond

/-- Issuing registers a challenge when it is granted, and changes nothing otherwise. A registered
challenge is handed out if its lifetime can be written. -/
theorem issue_eq (p : Policy) (now : Moment) (serverKey claimantKey : Text) (lifetime : Int)
    (s : Issuer) :
    issue p now serverKey claimantKey lifetime s =
      match p.grant now serverKey claimantKey lifetime with
      | .error f => (.error f, s)
      | .ok second =>
        (handOut lifetime (s.nextChallenge p second serverKey claimantKey lifetime),
          (s.register p second serverKey claimantKey lifetime).2) := by
  unfold issue Policy.grant
  cases checkRequest serverKey claimantKey lifetime with
  | error f => rfl
  | ok =>
    cases p.second now with
    | error f => rfl
    | ok second =>
      show s.register p second serverKey claimantKey lifetime = (handOut lifetime _, _)
      rw [register_eq]

/-! ## Claiming and invalidating -/

/-- Turns a pending challenge into a marker. -/
def spend (id : Text) (expiresAt : Int) (s : Issuer) : Issuer :=
  { s with pending := s.pending.erase id, consumed := s.consumed.insert id expiresAt }

theorem claim_of_get?_eq_some {s : Issuer} {id : Text} {c : Challenge} (h : s.get? id = some c) :
    claim id s = (.ok c, s.spend id c.expiresAt) := by
  have hpending : s.pending.get? id = some c := h
  rw [claim, hpending]
  rfl

theorem claim_of_get?_eq_none {s : Issuer} {id : Text} (h : s.get? id = none) :
    claim id s =
      (.error (if s.isConsumed id then .challengeConsumed id else .unknownChallenge (some id)),
        s) := by
  have hpending : s.pending.get? id = none := h
  rw [claim, hpending]

theorem get?_spend (id : Text) (expiresAt : Int) (s : Issuer) (other : Text) :
    (s.spend id expiresAt).get? other = if other = id then none else s.get? other :=
  s.pending.get?_erase id other

theorem isConsumed_spend (id : Text) (expiresAt : Int) (s : Issuer) (other : Text) :
    (s.spend id expiresAt).isConsumed other = (decide (other = id) || s.isConsumed other) := by
  show ((s.consumed.insert id expiresAt).get? other).isSome = _
  rw [OrderedMap.get?_insert]
  by_cases hid : other = id <;> simp [hid, isConsumed, OrderedMap.contains]

theorem get?_of_get?_spend {id : Text} {expiresAt : Int} {s : Issuer} {other : Text} {c : Challenge}
    (h : (s.spend id expiresAt).get? other = some c) : other ≠ id ∧ s.get? other = some c := by
  rw [get?_spend] at h
  split at h
  · cases h
  · next hother => exact ⟨hother, h⟩

theorem get?_invalidate (s : Issuer) (id other : Text) :
    (s.invalidate id).get? other = if other = id then none else s.get? other :=
  s.pending.get?_erase id other

theorem get?_of_get?_invalidate {s : Issuer} {id other : Text} {c : Challenge}
    (h : (s.invalidate id).get? other = some c) : other ≠ id ∧ s.get? other = some c := by
  rw [get?_invalidate] at h
  split at h
  · cases h
  · next hother => exact ⟨hother, h⟩

end ComputeDirectory.Identity.Issuer
