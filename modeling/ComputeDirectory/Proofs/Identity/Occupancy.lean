import ComputeDirectory.Proofs.Identity.Consistency
import ComputeDirectory.Proofs.Identity.Sweeping
import ComputeDirectory.Proofs.OrderedMap
import Mathlib.Data.List.Induction

/-!
# How much is kept

A sweep leaves what expired no longer ago than the retention. With lifetimes of at most `span`, that
was issued in the last `span + retention + 1` seconds, so a limit on how many challenges are issued
in that time is a limit on what a sweep leaves (`Issuer.bounded_sweep`). From one sweep to the next
only issuing adds to it, and the counter of the issuer counts that: `Issuer.Bounded` is kept by all
that an issuer does.

After a forgetting, the states belong to pending challenges and markers. From one forgetting to the
next only beginning adds to them, which the counter of the session counts: `Confined`.

So the stores are bounded by the settings and the rate at which challenges are issued, and no call
is needed that asks for a sweep. Lifetimes have to be such that they can be written: no sweep comes
with a challenge whose lifetime cannot, so that any number of them may pile up.
-/

namespace ComputeDirectory.Identity

/-! ## What an issuer keeps -/

namespace Issuer

variable {p : Policy} {s s' : Issuer} {issued : List Challenge} {span now : Int} {limit : Nat}

/-- How many pending challenges and markers there are. -/
def occupancy (s : Issuer) : Nat := s.pending.size + s.consumed.size

/-- When the challenges expire that an issuer knows: the pending ones, then those with a marker. -/
def expiries (s : Issuer) : List Int :=
  s.pending.values.map Challenge.expiresAt ++ s.consumed.values

theorem length_expiries (s : Issuer) : s.expiries.length = s.occupancy := by
  rw [expiries, List.length_append, List.length_map, OrderedMap.length_values,
    OrderedMap.length_values, occupancy]

theorem expiries_file (c : Challenge) (s : Issuer) :
    (s.file c).expiries.Subperm (c.expiresAt :: s.expiries) := by
  obtain ⟨l, hperm, hsub⟩ := s.pending.values_insert_subperm c.id c
  exact (List.subperm_append_right _).2 ⟨_, hperm.map _, hsub.map Challenge.expiresAt⟩

theorem expiries_sweep (p : Policy) (now : Int) (s : Issuer) :
    (s.sweep p now).2.expiries.Subperm s.expiries :=
  (List.Sublist.append ((s.pending.values_filter_sublist _).map _)
    (s.consumed.values_filter_sublist _)).subperm

theorem expiries_invalidate (id : Text) (s : Issuer) :
    (s.invalidate id).expiries.Subperm s.expiries :=
  (List.Sublist.append_right ((s.pending.values_filter_sublist _).map _) _).subperm

/-- The expiry of a claimed challenge moves from the pending ones to the markers. -/
theorem expiries_spend {c : Challenge} (h : s.get? c.id = some c) :
    (s.spend c.id c.expiresAt).expiries.Subperm s.expiries := by
  have hmarker : (s.spend c.id c.expiresAt).expiries.Subperm
      ((s.pending.erase c.id).values.map Challenge.expiresAt ++ c.expiresAt :: s.consumed.values) :=
    (List.subperm_append_left _).2 (s.consumed.values_insert_subperm c.id c.expiresAt)
  have hpending : s.expiries.Perm
      (c.expiresAt :: (s.pending.erase c.id).values.map Challenge.expiresAt ++ s.consumed.values) :=
    ((OrderedMap.values_perm_erase h).map Challenge.expiresAt).append_right _
  exact hmarker.trans (List.perm_middle.trans hpending.symm).subperm

/-- What a sweep leaves expired no longer ago than the retention, if at all. -/
theorem recent_of_mem_expiries_sweep {e : Int} (h : e ∈ (s.sweep p now).2.expiries) :
    now ≤ e + p.retention := by
  have hretention := p.retention_nonneg
  rcases List.mem_append.1 h with hpending | hmarker
  · obtain ⟨c, hc, rfl⟩ := List.mem_map.1 hpending
    obtain ⟨entry, hentry, rfl⟩ := List.mem_map.1 hc
    have hlive := not_isExpired_iff.1 (List.mem_filter.1 hentry).2
    omega
  · obtain ⟨entry, hentry, rfl⟩ := List.mem_map.1 hmarker
    exact not_isStale_iff.1 (List.mem_filter.1 hentry).2

/-! ## Bounds for an issuer -/

/-- Challenges that last no longer than `span` seconds each, and of which no more than `limit` are
issued within any `span + retention + 1` consecutive seconds: as long as one may be remembered. -/
structure Moderate (p : Policy) (span : Int) (limit : Nat) (issued : List Challenge) : Prop where
  brief : ∀ c ∈ issued, c.expiresAt ≤ c.issuedAt + span
  sparse : ∀ first, issued.countP (fun c =>
    first ≤ c.issuedAt ∧ c.issuedAt < first + (span + p.retention + 1)) ≤ limit

theorem Moderate.of_append {later : List Challenge}
    (h : Moderate p span limit (issued ++ later)) : Moderate p span limit issued where
  brief c hc := h.brief c (List.mem_append_left _ hc)
  sparse first := Nat.le_trans (List.sublist_append_left ..).countP_le (h.sparse first)

/-- What an issuer keeps after some challenges were issued: some of these, and at most `limit` but
for those issued since the last sweep. -/
structure Bounded (p : Policy) (limit : Nat) (issued : List Challenge) (s : Issuer) : Prop where
  kept : s.expiries.Subperm (issued.map Challenge.expiresAt)
  occupancy_le : s.occupancy ≤ limit + s.issuedSinceSweep
  counter_lt : s.issuedSinceSweep < p.sweepEvery

theorem bounded_start (p : Policy) (limit : Nat) : Bounded p limit [] start where
  kept := List.Subperm.refl _
  occupancy_le := Nat.zero_le _
  counter_lt := by
    have hpos := p.sweepEvery_pos
    show ((0 : Nat) : Int) < _
    omega

/-- A sweep brings the issuer down to what was issued lately. -/
theorem bounded_sweep (hmoderate : Moderate p span limit issued)
    (hkept : s.expiries.Subperm (issued.map Challenge.expiresAt))
    (hpast : ∀ c ∈ issued, c.issuedAt ≤ now) : Bounded p limit issued (s.sweep p now).2 where
  kept := (expiries_sweep p now s).trans hkept
  occupancy_le := by
    have hkept' := (expiries_sweep p now s).trans hkept
    rw [issuedSinceSweep_sweep, Nat.add_zero, ← length_expiries]
    calc
      (s.sweep p now).2.expiries.length
        = (s.sweep p now).2.expiries.countP (fun e => now ≤ e + p.retention) := by
          refine (List.countP_eq_length.2 fun e he => ?_).symm
          exact decide_eq_true (recent_of_mem_expiries_sweep he)
      _ ≤ (issued.map Challenge.expiresAt).countP (fun e => now ≤ e + p.retention) :=
          hkept'.countP_le _
      _ = issued.countP (fun c => now ≤ c.expiresAt + p.retention) := List.countP_map ..
      _ ≤ issued.countP (fun c => now - span - p.retention ≤ c.issuedAt ∧
            c.issuedAt < now - span - p.retention + (span + p.retention + 1)) := by
          refine List.countP_mono_left fun c hc hrecent => ?_
          have hbrief := hmoderate.brief c hc
          have hissued := hpast c hc
          simp only [decide_eq_true_eq] at hrecent ⊢
          omega
      _ ≤ limit := hmoderate.sparse _
  counter_lt := by
    have hpos := p.sweepEvery_pos
    rw [issuedSinceSweep_sweep]
    omega

namespace Bounded

/-- Nothing comes in by what issues no challenge. -/
theorem of_subperm (h : Bounded p limit issued s) (hkept : s'.expiries.Subperm s.expiries)
    (hcounter : s'.issuedSinceSweep = s.issuedSinceSweep) : Bounded p limit issued s' where
  kept := hkept.trans h.kept
  occupancy_le := by
    have hlength := hkept.length_le
    rw [length_expiries, length_expiries] at hlength
    rw [hcounter]
    exact Nat.le_trans hlength h.occupancy_le
  counter_lt := by
    rw [hcounter]
    exact h.counter_lt

theorem spend (h : Bounded p limit issued s) {c : Challenge} (hget : s.get? c.id = some c) :
    Bounded p limit issued (s.spend c.id c.expiresAt) := h.of_subperm (expiries_spend hget) rfl

theorem invalidate (h : Bounded p limit issued s) (id : Text) :
    Bounded p limit issued (s.invalidate id) := h.of_subperm (expiries_invalidate id s) rfl

/-- A new challenge is counted as issued since the last sweep, or a sweep comes with it. -/
theorem register (h : Bounded p limit issued s) (serverKey claimantKey : Text) (lifetime : Int)
    (hname : Json.isShort lifetime = true)
    (hmoderate : Moderate p span limit
      (issued ++ [s.nextChallenge p now serverKey claimantKey lifetime]))
    (hpast : ∀ c ∈ issued, c.issuedAt ≤ now) :
    Bounded p limit (issued ++ [s.nextChallenge p now serverKey claimantKey lifetime])
      (s.register p now serverKey claimantKey lifetime).2 := by
  rw [register_eq]
  generalize hc : s.nextChallenge p now serverKey claimantKey lifetime = c at hmoderate ⊢
  have hfiled : (s.file c).expiries.Subperm ((issued ++ [c]).map Challenge.expiresAt) := by
    have hadded := (expiries_file c s).trans ((List.subperm_cons _).2 h.kept)
    rw [List.map_append]
    exact hadded.trans (List.perm_append_singleton ..).symm.subperm
  by_cases hdue : s.SweepsNext p lifetime
  · simp only [hdue, if_true]
    refine bounded_sweep hmoderate hfiled fun d hd => ?_
    rcases List.mem_append.1 hd with hold | hnew
    · exact hpast d hold
    · rw [List.mem_singleton.1 hnew, ← hc]
      exact Int.le_refl _
  · simp only [hdue, if_false]
    refine ⟨hfiled, ?_, Int.not_le.1 fun hle => hdue ⟨hname, hle⟩⟩
    have hlength := (expiries_file c s).length_le
    have hle := h.occupancy_le
    rw [List.length_cons, length_expiries, length_expiries] at hlength
    show (s.file c).occupancy ≤ limit + (s.issuedSinceSweep + 1)
    omega

/-- Between two sweeps fewer challenges are issued than the settings allow. -/
theorem occupancy_lt (h : Bounded p limit issued s) :
    (s.occupancy : Int) ≤ limit + p.sweepEvery - 1 := by
  have hle := h.occupancy_le
  have hlt := h.counter_lt
  omega

end Bounded

end Issuer

namespace Session

variable {σ : Type} {p : Policy} {s s' : Session} {issued : List Challenge} {span : Int}
  {limit : Nat}

/-! ## Bounds for a session -/

/-- Once states are forgotten, each of those left belongs to something that the issuer keeps. -/
theorem size_states_forgetUntracked (s : Session) :
    s.forgetUntracked.states.size ≤ s.issuer.occupancy := by
  have hnodup : s.forgetUntracked.states.keys.Nodup := s.forgetUntracked.states.nodup_keys
  have hsubset : s.forgetUntracked.states.keys ⊆
      s.issuer.pending.keys ++ s.issuer.consumed.keys := by
    intro id hid
    obtain ⟨⟨id, a⟩, hentry, rfl⟩ := List.mem_map.1 hid
    have htracked := (List.mem_filter.1 hentry).2
    rw [Bool.or_eq_true] at htracked
    rw [List.mem_append, OrderedMap.mem_keys_iff, OrderedMap.mem_keys_iff]
    exact htracked.imp Option.isSome_iff_ne_none.1 Option.isSome_iff_ne_none.1
  have hlength := (List.subperm_of_subset hnodup hsubset).length_le
  simp only [List.length_append, OrderedMap.keys, List.length_map] at hlength
  exact hlength

/-- What a session keeps after some challenges were begun: its issuer is bounded, and so are the
states but for those of the challenges begun since the last forgetting. -/
structure Confined (p : Policy) (limit : Nat) (issued : List Challenge) (s : Session) : Prop where
  issuer : s.issuer.Bounded p.issuer limit issued
  states_le : (s.states.size : Int) ≤ limit + p.issuer.sweepEvery - 1 + s.begunSinceSweep
  counter_lt : s.begunSinceSweep < p.sweepEvery

theorem confined_start (hsweep : 1 ≤ p.sweepEvery) (limit : Nat) : Confined p limit [] start where
  issuer := Issuer.bounded_start p.issuer limit
  states_le := by
    have hpos := p.issuer.sweepEvery_pos
    show ((0 : Nat) : Int) ≤ limit + p.issuer.sweepEvery - 1 + (0 : Nat)
    omega
  counter_lt := by
    show ((0 : Nat) : Int) < _
    omega

/-- Forgetting brings the states down to what the issuer keeps. -/
theorem confined_forgetUntracked (hsweep : 1 ≤ p.sweepEvery)
    (hissuer : s.issuer.Bounded p.issuer limit issued) :
    Confined p limit issued s.forgetUntracked where
  issuer := hissuer
  states_le := by
    have hsize := s.size_states_forgetUntracked
    have hbound := hissuer.occupancy_lt
    show (s.forgetUntracked.states.size : Int) ≤ limit + p.issuer.sweepEvery - 1 + (0 : Nat)
    omega
  counter_lt := by
    show ((0 : Nat) : Int) < _
    omega

namespace Confined

/-- Nothing comes in by what begins no challenge. -/
theorem of_le (h : Confined p limit issued s) (hissuer : s'.issuer.Bounded p.issuer limit issued)
    (hstates : s'.states.size ≤ s.states.size) (hcounter : s'.begunSinceSweep = s.begunSinceSweep) :
    Confined p limit issued s' where
  issuer := hissuer
  states_le := by
    have hle := h.states_le
    rw [hcounter]
    omega
  counter_lt := by
    rw [hcounter]
    exact h.counter_lt

theorem track (h : Confined p limit issued s) (hsweep : 1 ≤ p.sweepEvery)
    {entry : Challenge × Issuer} (hissuer : entry.2.Bounded p.issuer limit (issued ++ [entry.1])) :
    Confined p limit (issued ++ [entry.1]) (s.track p entry) := by
  rw [Session.track]
  by_cases hdue : s.ForgetsNext p
  · rw [if_pos hdue]
    exact confined_forgetUntracked hsweep hissuer
  · rw [if_neg hdue]
    refine ⟨hissuer, ?_, Int.not_le.1 hdue⟩
    have hsize := s.states.size_insert_le entry.1.id AuthState.issued
    have hle := h.states_le
    show ((s.states.insert entry.1.id .issued).size : Int) ≤
      limit + p.issuer.sweepEvery - 1 + (s.begunSinceSweep + 1 : Nat)
    omega

/-- An answer overwrites a state that is there. -/
theorem submit (h : Confined p limit issued s) (hs : Consistent p s) (hissued : AllIssued s)
    (verify : Verifier) (store : RecordStore σ) (now : Moment) (e : SignedEvent) (t : σ) :
    Confined p limit issued (Session.submit p verify store now e (s, t)).2.1 := by
  rcases hs.submit_cases verify store now e t with
    ⟨c, ending, -, hget, -, hafter⟩ | ⟨id, a, -, -, hstate, hafter⟩ | hafter
  · rw [hafter]
    exact h.of_le (h.issuer.spend hget)
      (Nat.le_of_eq (OrderedMap.size_insert_of_get? (hissued _ c hget) ending)) rfl
  · rw [hafter]
    exact h.of_le h.issuer (Nat.le_of_eq (OrderedMap.size_insert_of_get? hstate _)) rfl
  · rw [hafter]
    exact h

theorem cancel (h : Confined p limit issued s) (id : Text) :
    Confined p limit issued (s.cancel id) := by
  refine h.of_le ?_ ?_ (begunSinceSweep_cancel id s)
  · rw [issuer_cancel]
    exact h.issuer.invalidate id
  · simp only [Session.cancel]
    split
    · exact OrderedMap.size_erase_le _ id
    · exact (Nat.le_refl _)

theorem claim (h : Confined p limit issued s) (hs : Consistent p s) (id : Text) :
    Confined p limit issued { s with issuer := (Issuer.claim id s.issuer).2 } := by
  refine h.of_le ?_ (Nat.le_refl _) rfl
  cases hget : s.issuer.get? id with
  | none =>
    rw [Issuer.claim_of_get?_eq_none hget]
    exact h.issuer
  | some c =>
    obtain ⟨rfl, -⟩ := hs.filed hget
    rw [Issuer.claim_of_get?_eq_some hget]
    exact h.issuer.spend hget

end Confined

/-! ## Runs -/

/-- The challenges begun in a run, oldest first. -/
def begun (steps : List (Step σ)) : List Challenge := steps.filterMap fun s => s.reply.begun?

theorem begun_concat (p : Policy) (calls : List (Moment × Call σ)) (now : Moment) (call : Call σ)
    (st : Session × σ) :
    begun (history p (calls ++ [(now, call)]) st) =
      begun (history p calls st) ++ (perform p now call (final p calls st)).1.begun?.toList := by
  have hlast (step : Step σ) : begun [step] = step.reply.begun?.toList := by
    rw [begun, List.filterMap_cons]
    cases step.reply.begun? <;> rfl
  rw [history_append, begun, List.filterMap_append]
  exact congrArg (begun (history p calls st) ++ ·) (hlast _)

/-- A challenge is begun at the second that the clock shows. -/
theorem exists_call_of_mem_begun {calls : List (Moment × Call σ)} {st : Session × σ} {c : Challenge}
    (h : c ∈ begun (history p calls st)) :
    ∃ call ∈ calls, p.issuer.second call.1 = .ok c.issuedAt := by
  obtain ⟨step, hstep, hbegun⟩ := List.mem_filterMap.1 h
  obtain ⟨before, now, call, after, rfl, rfl⟩ := mem_history hstep
  refine ⟨(now, call), by simp, ?_⟩
  replace hbegun : (perform p now call (final p before st)).1.begun? = some c := hbegun
  generalize final p before st = reached at hbegun
  obtain ⟨s, t⟩ := reached
  cases call with
  | issue claimantKey lifetime =>
    simp only [perform, issue_eq] at hbegun
    cases hgrant : p.grant now claimantKey lifetime with
    | error f =>
      rw [hgrant] at hbegun
      cases hbegun
    | ok second =>
      simp only [hgrant] at hbegun
      cases hname : p.isNameable lifetime with
      | true =>
        rw [handedOut_of_isNameable hname] at hbegun
        cases hbegun
        exact (Issuer.Policy.grant_eq_ok hgrant).2
      | false =>
        rw [handedOut_of_not_isNameable hname] at hbegun
        cases hbegun
  | submit verify store e => cases hbegun
  | cancel id => cases hbegun
  | sweep => cases hbegun
  | claim id => cases hbegun
  | invalidate id => cases hbegun
  | sweepIssuer second => cases second <;> cases hbegun

/-- Whether a call sweeps, if at all, at the second that the clock shows. -/
def Call.keepsTime : Call σ → Bool
  | sweepIssuer (some _) => false
  | issue _ _ | submit _ _ _ | cancel _ | sweep | claim _ | invalidate _ | sweepIssuer none => true

/-- One more call keeps a session confined: what was begun before is not of the future. -/
theorem Confined.perform {st : Session × σ} (h : Confined p limit issued st.1)
    (hs : Consistent p st.1) (hissued : AllIssued st.1) (hsweep : 1 ≤ p.sweepEvery)
    {now : Moment} {call : Call σ} (hcall : call.keepsTime = true)
    (hname : call.isNameable p = true)
    (hmoderate : Issuer.Moderate p.issuer span limit
      (issued ++ (Session.perform p now call st).1.begun?.toList))
    (hpast : ∀ second, p.issuer.second now = .ok second → ∀ c ∈ issued, c.issuedAt ≤ second) :
    Confined p limit (issued ++ (Session.perform p now call st).1.begun?.toList)
      (Session.perform p now call st).2.1 := by
  obtain ⟨s, t⟩ := st
  have hswept {second : Int} (hsecond : p.issuer.second now = .ok second) :
      (s.issuer.sweep p.issuer second).2.Bounded p.issuer limit issued :=
    Issuer.bounded_sweep hmoderate.of_append h.issuer.kept (hpast second hsecond)
  have hquiet {s' : Session} (h : Confined p limit issued s') :
      Confined p limit (issued ++ []) s' := by rwa [List.append_nil]
  cases call with
  | issue claimantKey lifetime =>
    simp only [Session.perform, issue_eq] at hmoderate ⊢
    cases hgrant : p.grant now claimantKey lifetime with
    | error f => exact hquiet h
    | ok second =>
      simp only [hgrant, handedOut_of_isNameable hname, granted_of_isNameable hname] at hmoderate ⊢
      exact h.track hsweep (h.issuer.register p.serverKey claimantKey _ hname hmoderate
        (hpast second (Issuer.Policy.grant_eq_ok hgrant).2))
  | submit verify store e =>
    exact hquiet (h.submit hs hissued verify store now e t)
  | cancel id => exact hquiet (h.cancel id)
  | sweep =>
    simp only [Session.perform, sweep_eq]
    cases hsecond : p.issuer.second now with
    | error f => exact hquiet h
    | ok second => exact hquiet (confined_forgetUntracked hsweep (hswept hsecond))
  | claim id => exact hquiet (h.claim hs id)
  | invalidate id => exact hquiet (h.of_le (h.issuer.invalidate id) (Nat.le_refl _) rfl)
  | sweepIssuer second =>
    cases second with
    | some second => cases hcall
    | none =>
      simp only [Session.perform, Issuer.sweepNow_eq]
      cases hsecond : p.issuer.second now with
      | error f => exact hquiet h
      | ok second => exact hquiet (h.of_le (hswept hsecond) (Nat.le_refl _) rfl)

/-- A session stays confined in a run in which challenges are begun in moderation. -/
theorem confined_final (hsweep : 1 ≤ p.sweepEvery) (records : σ)
    {calls : List (Moment × Call σ)} (hcalls : ∀ call ∈ calls, call.2.keepsTime = true)
    (hname : ∀ call ∈ calls, call.2.isNameable p = true) (hsteady : Steady p calls)
    (hmoderate : Issuer.Moderate p.issuer span limit (begun (history p calls (start, records)))) :
    Confined p limit (begun (history p calls (start, records)))
      (final p calls (start, records)).1 := by
  -- on the last call: the clock and the challenges of a run are those of a shorter one and one more
  induction calls using List.reverseRecOn with
  | nil => exact confined_start hsweep limit
  | append_singleton calls last ih =>
    obtain ⟨now, call⟩ := last
    obtain ⟨hbefore, -, hpast⟩ := List.pairwise_append.1 hsteady
    have hnameBefore : ∀ call ∈ calls, call.2.isNameable p = true :=
      fun call hcall => hname call (List.mem_append_left _ hcall)
    rw [begun_concat] at hmoderate ⊢
    rw [final_append]
    refine Confined.perform (ih (fun call hcall => hcalls call (List.mem_append_left _ hcall))
      hnameBefore hbefore hmoderate.of_append) (consistent_final p calls records)
      (allIssued_final hnameBefore records) hsweep (hcalls (now, call) (by simp))
      (hname (now, call) (by simp)) hmoderate ?_
    intro second hsecond c hc
    obtain ⟨earlier, hearlier, hissued⟩ := exists_call_of_mem_begun hc
    exact hpast earlier hearlier (now, call) (List.mem_singleton_self _) c.issuedAt second hissued
      hsecond

/-- The stores stay bounded, whether or not anybody asks for a sweep. Let every lifetime be one that
can be written, every challenge begun last at most `span` seconds, and at most `limit` of them be
begun within `span + retention + 1` seconds, by a clock that does not go back. Then at no point of a
run are there more challenges pending or remembered than `limit` and one less than the issuer issues
between two sweeps, nor more states than that and one less than the session begins between two
forgettings. -/
theorem stores_bounded (p : Policy) (hsweep : 1 ≤ p.sweepEvery) (span : Int) (limit : Nat)
    (calls : List (Moment × Call σ)) (hcalls : ∀ call ∈ calls, call.2.keepsTime = true)
    (hname : ∀ call ∈ calls, call.2.isNameable p = true) (hsteady : Steady p calls) (records : σ)
    (hmoderate : Issuer.Moderate p.issuer span limit (begun (history p calls (start, records)))) :
    ∀ s ∈ history p calls (start, records),
      (s.after.1.issuer.pending.size + s.after.1.issuer.consumed.size : Int) ≤
          limit + p.issuer.sweepEvery - 1 ∧
        (s.after.1.states.size : Int) ≤ limit + p.issuer.sweepEvery + p.sweepEvery - 2 := by
  intro s hs
  obtain ⟨before, after, rfl, hafter, -⟩ := after_of_sublist (List.singleton_sublist.2 hs)
  rw [history_append, begun, List.filterMap_append] at hmoderate
  have hconfined := confined_final hsweep records
    (fun call hcall => hcalls call (List.mem_append_left _ hcall))
    (fun call hcall => hname call (List.mem_append_left _ hcall))
    (List.pairwise_append.1 hsteady).1 hmoderate.of_append
  rw [hafter]
  have hissuer := hconfined.issuer.occupancy_lt
  have hstates := hconfined.states_le
  have hcounter := hconfined.counter_lt
  refine ⟨?_, by omega⟩
  rw [Issuer.occupancy] at hissuer
  omega

/-- Three challenges, no two of them within a minute, and no sweep but the one that comes with the
second: two are pending in the end, which is the bound. -/
theorem stores_bounded_sample :
    let p := samplePolicy 2 2 0
    let calls := [(0, sampleIssue), (100000000, sampleIssue), (200000000, sampleIssue)]
    (∀ s ∈ history p calls (start, .empty),
      (s.after.1.issuer.pending.size + s.after.1.issuer.consumed.size : Int) ≤ (1 : Nat) + 2 - 1 ∧
        (s.after.1.states.size : Int) ≤ (1 : Nat) + 2 + 2 - 2) ∧
      (final p calls (start, .empty)).1.issuer.pending.size = 2 := by
  intro p calls
  have hbegun : begun (history p calls (start, .empty)) =
      [⟨sampleToken 0, sampleKey, sampleKey, 0, 60⟩,
        ⟨sampleToken 1, sampleKey, sampleKey, 100, 160⟩,
        ⟨sampleToken 2, sampleKey, sampleKey, 200, 260⟩] := rfl
  have hmoderate : Issuer.Moderate p.issuer 60 1 (begun (history p calls (start, .empty))) := by
    have hretention : p.issuer.retention = 0 := rfl
    rw [hbegun]
    refine ⟨by simp, fun first => ?_⟩
    simp only [List.countP_cons, List.countP_nil, hretention, decide_eq_true_eq]
    split <;> split <;> split <;> omega
  refine ⟨stores_bounded p (by decide) 60 1 calls ?_ (by decide) ?_ .empty hmoderate,
    by decide +kernel⟩
  · simp [calls, sampleIssue, Call.keepsTime]
  · exact steady_of_le (by simp [calls])

end Session

end ComputeDirectory.Identity
