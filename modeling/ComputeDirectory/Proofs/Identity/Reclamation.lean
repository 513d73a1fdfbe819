import ComputeDirectory.Proofs.Identity.IssuerHistory
import ComputeDirectory.Proofs.Identity.Occupancy

/-!
# Sweeps in a row

What a sweep does is told by its second. `Reclaims` says which entries it keeps and how many go, and
a sweep does just that (`sweep_eq_iff`), whether it filters the entries or erases them one by one
(`reclaim_eq_sweep`).

Two sweeps in a row are one at the later of their seconds, whichever comes first (`Reclaims.trans`):
an entry that outlasts both of them outlasts the later one, and the numbers add up because each is
the drop of the occupancy. So a run of sweeps is told by its latest second (`reclaims_final`), and
to sweep at a second that is over takes nothing (`Reclaims.sweep_of_le`).
-/

namespace ComputeDirectory.Identity.Issuer

variable {p : Policy} {now later : Int} {n m : Nat} {s s' s'' : Issuer}

/-- What outlasts two seconds, one after the other, outlasts the later one. -/
private theorem filter_filter_le {α : Type} (l : List α) (deadline : α → Int) (now later : Int) :
    ((l.filter fun a => now ≤ deadline a).filter fun a => later ≤ deadline a) =
      l.filter fun a => max now later ≤ deadline a := by
  rw [List.filter_filter]
  refine List.filter_congr fun a _ => ?_
  rw [← Bool.decide_and]
  exact decide_eq_decide.2 (by omega)

/-! ## What a sweep leaves -/

/-- What a sweep at a second makes of an issuer. The pending challenges that have not expired stay,
and the markers within the retention, as they are and in their order; the counter starts again. The
number is that by which the entries became fewer. -/
structure Reclaims (p : Policy) (now : Int) (s : Issuer) (n : Nat) (s' : Issuer) : Prop where
  pending : s'.pending.entries = s.pending.entries.filter fun e => now ≤ e.2.expiresAt
  consumed : s'.consumed.entries = s.consumed.entries.filter fun e => now ≤ e.2 + p.retention
  counter : s'.issuedSinceSweep = 0
  drawn : s'.drawn = s.drawn
  drop : n + s'.occupancy = s.occupancy

theorem reclaims_sweep (p : Policy) (now : Int) (s : Issuer) :
    Reclaims p now s (s.sweep p now).1 (s.sweep p now).2 where
  pending := by
    refine List.filter_congr fun e _ => Bool.eq_iff_iff.2 ?_
    rw [decide_eq_true_eq]
    exact not_isExpired_iff
  consumed := by
    refine List.filter_congr fun e _ => Bool.eq_iff_iff.2 ?_
    rw [decide_eq_true_eq]
    exact not_isStale_iff
  counter := rfl
  drawn := rfl
  drop := by
    have hpending : (s.sweep p now).2.pending.size ≤ s.pending.size := s.pending.size_filter_le _
    have hconsumed : (s.sweep p now).2.consumed.size ≤ s.consumed.size :=
      s.consumed.size_filter_le _
    have hremoved : (s.sweep p now).1 =
        (s.pending.size - (s.sweep p now).2.pending.size) +
          (s.consumed.size - (s.sweep p now).2.consumed.size) := rfl
    rw [hremoved, occupancy, occupancy]
    omega

/-- At the very second when it is over an entry stays, and a second later it goes: a challenge that
expires at 60, then its marker, with a retention of ten seconds. -/
example :
    let p := (Session.samplePolicy 4 4 10).issuer
    let id := Session.sampleToken 0
    let filed := start.file ⟨id, Session.sampleKey, Session.sampleKey, 0, 60⟩
    let spent := filed.spend id 60
    (filed.sweep p 60).1 = 0 ∧ (filed.sweep p 61).1 = 1 ∧ (spent.sweep p 70).1 = 0 ∧
      (spent.sweep p 71).1 = 1 := by
  decide

namespace Reclaims

/-- There is one way to do it. -/
theorem unique (h : Reclaims p now s n s') (h' : Reclaims p now s m s'') :
    n = m ∧ s' = s'' := by
  have hpending : s'.pending = s''.pending := OrderedMap.ext (h.pending.trans h'.pending.symm)
  have hconsumed : s'.consumed = s''.consumed :=
    OrderedMap.ext (h.consumed.trans h'.consumed.symm)
  have hcounter : s'.issuedSinceSweep = s''.issuedSinceSweep := h.counter.trans h'.counter.symm
  have hdrawn : s'.drawn = s''.drawn := h.drawn.trans h'.drawn.symm
  have hsame : s' = s'' := by
    cases s'
    cases s''
    simp only [mk.injEq]
    exact ⟨hpending, hconsumed, hcounter, hdrawn⟩
  -- what is left is the same, so as much is gone
  have hdrop := h.drop
  have hdrop' := h'.drop
  rw [← hsame] at hdrop'
  exact ⟨by omega, hsame⟩

/-- One after the other, whichever second is the later one. -/
theorem trans (h : Reclaims p now s n s') (h' : Reclaims p later s' m s'') :
    Reclaims p (max now later) s (n + m) s'' where
  pending := by rw [h'.pending, h.pending, filter_filter_le]
  consumed := by rw [h'.consumed, h.consumed, filter_filter_le]
  counter := h'.counter
  drawn := h'.drawn.trans h.drawn
  drop := by
    have hdrop := h.drop
    have hdrop' := h'.drop
    omega

end Reclaims

/-- A sweep does what `Reclaims` says, and nothing else does. -/
theorem sweep_eq_iff : s.sweep p now = (n, s') ↔ Reclaims p now s n s' := by
  constructor
  · intro h
    have hreclaims := reclaims_sweep p now s
    rwa [h] at hreclaims
  · intro h
    obtain ⟨hremoved, hleft⟩ := (reclaims_sweep p now s).unique h
    exact Prod.ext hremoved hleft

/-! ## Sweeping entry by entry -/

/-- A sweep that lists the identifiers of what is over, erases them one after the other and counts
them. -/
def reclaim (p : Policy) (now : Int) (s : Issuer) : Nat × Issuer :=
  let expired := (s.pending.filter fun _ c => c.isExpired now).keys
  let stale := (s.consumed.filter fun _ expiresAt => isStale p now expiresAt).keys
  (expired.length + stale.length,
    { s with
      pending := expired.foldl OrderedMap.erase s.pending
      consumed := stale.foldl OrderedMap.erase s.consumed
      issuedSinceSweep := 0 })

/-- No identifier stands twice, so to erase those of what is over leaves what is not. -/
theorem reclaim_eq_sweep (p : Policy) (now : Int) (s : Issuer) :
    s.reclaim p now = s.sweep p now := by
  have hexpired := s.pending.size_filter_add fun _ c => c.isExpired now
  have hstale := s.consumed.size_filter_add fun _ expiresAt => isStale p now expiresAt
  simp only [reclaim, sweep, OrderedMap.foldl_erase_keys_filter, OrderedMap.length_keys,
    Prod.mk.injEq, and_true]
  omega

/-! ## Sweeps in a row -/

/-- Of two sweeps, the earlier second does not matter. -/
theorem sweep_sweep (p : Policy) (now later : Int) (s : Issuer) :
    s.sweep p (max now later) =
      ((s.sweep p now).1 + ((s.sweep p now).2.sweep p later).1,
        ((s.sweep p now).2.sweep p later).2) :=
  sweep_eq_iff.2 ((reclaims_sweep p now s).trans (reclaims_sweep p later _))

/-- After a sweep, one at no later second takes nothing. -/
theorem Reclaims.sweep_of_le (h : Reclaims p later s n s') (hle : now ≤ later) :
    s'.sweep p now = (0, s') := by
  have hboth := h.trans (reclaims_sweep p now s')
  rw [Int.max_eq_left hle] at hboth
  obtain ⟨hremoved, hleft⟩ := h.unique hboth
  exact Prod.ext (by omega) hleft.symm

/-! ## Runs of sweeps -/

/-- The second at which a sweep is made: a given one, or the one that the clock shows. -/
def Policy.sweepSecond? (p : Policy) : Moment × Option Int → Option Int
  | (_, some second) => some second
  | (now, none) => (p.second now).toOption

/-- How many entries a reply says were removed. -/
def Reply.removed : Reply → Nat
  | swept (.ok removed) => removed
  | swept (.error _) | issued _ | claimed _ | done => 0

/-- How many entries the replies in a history say were removed. -/
def removedIn (steps : List Step) : Nat :=
  steps.foldr (fun step total => step.reply.removed + total) 0

theorem perform_sweep (p : Policy) (now : Moment) (second? : Option Int) (s : Issuer) :
    (perform p now (.sweep second?) s).2 = s.sweepAt p (p.sweepSecond? (now, second?)) := by
  rw [perform_eq]
  cases second? with
  | some second => rfl
  | none =>
    simp only [change, sweepSecond?, Policy.sweepSecond?]
    cases p.second now <;> rfl

/-- A reply to a sweep tells the drop of the occupancy, also when the clock could not be read. -/
theorem removed_perform_sweep (p : Policy) (now : Moment) (second? : Option Int) (s : Issuer) :
    (perform p now (.sweep second?) s).1.removed + (perform p now (.sweep second?) s).2.occupancy =
      s.occupancy := by
  cases second? with
  | some second => exact (reclaims_sweep p second s).drop
  | none =>
    simp only [perform, sweepNow_eq]
    cases p.second now with
    | error f => exact Nat.zero_add _
    | ok second => exact (reclaims_sweep p second s).drop

section Runs

variable (p s) (sweeps : List (Moment × Option Int))

/-- The calls that ask for some sweeps. -/
def sweepCalls : List (Moment × Call) := sweeps.map fun sweep => (sweep.1, .sweep sweep.2)

/-- The latest second at which a run of sweeps is made, if it is made at any. -/
def latestSecond? : Option Int := (sweeps.filterMap p.sweepSecond?).max?

/-- A run of sweeps leaves what a single one at its latest second leaves, and nothing changes when
the clock can never be read. -/
theorem final_sweepCalls :
    final p (sweepCalls sweeps) s = s.sweepAt p (latestSecond? p sweeps) := by
  induction sweeps generalizing s with
  | nil => rfl
  | cons sweep sweeps ih =>
    show final p (sweepCalls sweeps) (perform p sweep.1 (.sweep sweep.2) s).2 = _
    rw [ih, perform_sweep, latestSecond?, latestSecond?]
    cases hsecond : p.sweepSecond? sweep with
    | none =>
      rw [List.filterMap_cons_none hsecond]
      rfl
    | some second =>
      rw [List.filterMap_cons_some hsecond, List.max?_cons]
      cases (sweeps.filterMap p.sweepSecond?).max? with
      | none => rfl
      | some latest =>
        show ((s.sweep p second).2.sweep p latest).2 = (s.sweep p (max second latest)).2
        rw [sweep_sweep]

theorem removedIn_sweepCalls :
    removedIn (history p (sweepCalls sweeps) s) + (final p (sweepCalls sweeps) s).occupancy =
      s.occupancy := by
  induction sweeps generalizing s with
  | nil => exact Nat.zero_add _
  | cons sweep sweeps ih =>
    have hfirst := removed_perform_sweep p sweep.1 sweep.2 s
    have hrest := ih (perform p sweep.1 (.sweep sweep.2) s).2
    show (perform p sweep.1 (.sweep sweep.2) s).1.removed +
      removedIn (history p (sweepCalls sweeps) (perform p sweep.1 (.sweep sweep.2) s).2) +
      (final p (sweepCalls sweeps) (perform p sweep.1 (.sweep sweep.2) s).2).occupancy = _
    omega

/-- A run of sweeps does what a single one at its latest second does, and the replies tell together
how many entries that one would remove. -/
theorem reclaims_final {latest : Int} (hlatest : latestSecond? p sweeps = some latest) :
    Reclaims p latest s (removedIn (history p (sweepCalls sweeps) s))
      (final p (sweepCalls sweeps) s) := by
  have hfinal : final p (sweepCalls sweeps) s = (s.sweep p latest).2 := by
    rw [final_sweepCalls, hlatest]
    rfl
  have hreclaims := reclaims_sweep p latest s
  rw [← hfinal] at hreclaims
  exact { hreclaims with drop := removedIn_sweepCalls p s sweeps }

end Runs

/-! ## Main statement -/

/-- Sweeps compose, whatever the issuer holds and whichever of two seconds is the later one. A sweep
erases the identifiers of what is over; it keeps exactly the pending challenges that have not
expired and the markers within the retention, unchanged and in their order, and gives by how much
the entries became fewer. Two sweeps in a row leave what one at the later second leaves, and their
numbers add up to its number; to sweep twice at one second removes nothing the second time. -/
theorem sweeps_compose (p : Policy) (s : Issuer) (now now' : Int) :
    let swept := s.sweep p now
    let again := swept.2.sweep p now'
    let once := s.sweep p (max now now')
    swept = s.reclaim p now ∧ Reclaims p now s swept.1 swept.2 ∧
      again.2 = once.2 ∧ swept.1 + again.1 = once.1 ∧ swept.2.sweep p now = (0, swept.2) := by
  intro swept again once
  have hreclaims : Reclaims p now s swept.1 swept.2 := reclaims_sweep p now s
  have honce : once = (swept.1 + again.1, again.2) := sweep_sweep p now now' s
  refine ⟨(reclaim_eq_sweep p now s).symm, hreclaims, ?_, ?_, hreclaims.sweep_of_le (Int.le_refl _)⟩
  · rw [honce]
  · rw [honce]

end ComputeDirectory.Identity.Issuer
