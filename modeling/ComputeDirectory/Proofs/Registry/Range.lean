import ComputeDirectory.Proofs.Provider.Range
import ComputeDirectory.Proofs.Registry.Run
import ComputeDirectory.Proofs.Table.Rows

/-!
# No score or price leaves its range

Whatever a registry returns or writes is in range, however the store behaves: no check is made when
a record is changed, so the bounds rest on what comes in. A store gives sound records when it has
been given sound records only (the store in memory), or checks what it reads (a table service, with
any rows at all); and from sound records every operation makes sound ones (`perform_keeps`).

To speak about what is written, `recorded` makes any store keep a list of it, which changes nothing
else (`run_recorded`). Main statement: `run_staysInRange`.
-/

namespace ComputeDirectory.Registry

open Provider (Record Registration ReputationChange Status)
open Attempt (Keeps Agrees)

variable {σ : Type}

/-! ## Recording what is written -/

/-- What was given to a store to be written, the latest first. -/
structure Writes where
  records : List Record
  changes : List ReputationChange

/-- Nothing was written. -/
def Writes.none : Writes := ⟨[], []⟩

/-- A store that also keeps a list of what it is given to write, whether it then fails or not. -/
def recorded (store : ProviderStore σ) : ProviderStore (σ × Writes) where
  save r := do
    Attempt.modify fun t => (t.1, { t.2 with records := r :: t.2.records })
    (store.save r).within Prod.fst fun s t => (s, t.2)
  find? id := (store.find? id).within Prod.fst fun s t => (s, t.2)
  erase id := (store.erase id).within Prod.fst fun s t => (s, t.2)
  all := store.all.within Prod.fst fun s t => (s, t.2)
  append c := do
    Attempt.modify fun t => (t.1, { t.2 with changes := c :: t.2.changes })
    (store.append c).within Prod.fst fun s t => (s, t.2)
  history id := (store.history id).within Prod.fst fun s t => (s, t.2)

/-- Keeping the list changes nothing else. -/
theorem recorded_agrees (store : ProviderStore σ) :
    (recorded store).Simulates (fun t s => t.1 = s) store where
  save r := by
    rintro t s rfl
    exact ⟨rfl, rfl⟩
  find? id := by
    rintro t s rfl
    exact ⟨rfl, rfl⟩
  erase id := by
    rintro t s rfl
    exact ⟨rfl, rfl⟩
  all := by
    rintro t s rfl
    exact ⟨rfl, rfl⟩
  append c := by
    rintro t s rfl
    exact ⟨rfl, rfl⟩
  history id := by
    rintro t s rfl
    exact ⟨rfl, rfl⟩

/-- A run over a store that keeps the list is the run over the store. -/
theorem run_recorded (p : Policy) (stores : Moment → ProviderStore σ)
    (calls : List (Moment × Call)) (s : σ) (w : Writes) :
    (steps p (fun now => recorded (stores now)) calls (s, w)).map Step.outcome =
        (steps p stores calls s).map Step.outcome ∧
      (final p (fun now => recorded (stores now)) calls (s, w)).1 = final p stores calls s :=
  run_agrees (fun now => recorded_agrees (stores now)) p calls rfl

/-! ## Stores that give sound records -/

/-- A store gives sound records while an invariant holds, which it keeps when sound records and
changes in range are written. -/
structure ProviderStore.GivesSound (store : ProviderStore σ) (I : σ → Prop) : Prop where
  save : ∀ r : Record, r.IsSound → (store.save r).Keeps I fun _ => True
  find? : ∀ id, (store.find? id).Keeps I fun found => ∀ r, found = some r → r.IsSound
  erase : ∀ id, (store.erase id).Keeps I fun _ => True
  all : store.all.Keeps I fun records => ∀ r ∈ records, r.IsSound
  append : ∀ c : ReputationChange, c.InRange → (store.append c).Keeps I fun _ => True

/-- All records of a shelf are sound. -/
def Shelf.IsSound (s : Shelf) : Prop := ∀ r ∈ s.providers.values, r.IsSound

theorem shelfStore_givesSound : shelfStore.GivesSound Shelf.IsSound where
  save r hr := by
    refine Keeps.modify fun s hs => ?_
    intro r' hr'
    rcases OrderedMap.mem_values_insert hr' with rfl | hold
    · exact hr
    · exact hs r' hold
  find? id := by
    intro s hs
    refine ⟨hs, ?_⟩
    rintro found ⟨⟩ r hr
    exact hs r (OrderedMap.mem_values_of_get? hr)
  erase id := by
    intro s hs
    refine ⟨?_, fun _ _ => trivial⟩
    intro r hr
    exact hs r (OrderedMap.mem_values_erase hr)
  all := by
    intro s hs
    refine ⟨hs, ?_⟩
    rintro records ⟨⟩
    exact hs
  append c _ := Keeps.modify fun s hs => hs

/-- Rows are checked when they are read, whatever they are. -/
theorem providerStore_givesSound {τ : Type} (b : Table.Backend τ) (now : Moment) :
    (Table.providerStore b now).GivesSound fun _ => True where
  save r _ := Keeps.trivial _
  find? id := by
    refine Keeps.bind (Keeps.trivial _) fun rows _ => ?_
    refine Keeps.ofExcept ?_
    rintro found hfound r rfl
    cases rows with
    | nil => cases hfound
    | cons row rows =>
      obtain ⟨r', hr, hread⟩ := Table.firstRow_cons_eq_ok_iff.1 hfound
      cases hr
      exact Record.isSound_of_read hread
  erase id := Keeps.trivial _
  all := by
    refine Keeps.bind (Keeps.trivial _) fun rows _ => ?_
    refine Keeps.ofExcept ?_
    intro records hrecords r hr
    obtain ⟨row, -, hread⟩ := Table.exists_of_mem_allRows hrecords hr
    exact Record.isSound_of_read hread
  append c _ := Keeps.trivial _

/-- Everything that was written is in range. -/
structure Writes.InRange (w : Writes) : Prop where
  records : ∀ r ∈ w.records, r.IsSound
  changes : ∀ c ∈ w.changes, c.InRange

theorem ProviderStore.GivesSound.recorded {store : ProviderStore σ} {I : σ → Prop}
    (h : store.GivesSound I) : (recorded store).GivesSound fun t => I t.1 ∧ t.2.InRange where
  save r hr := by
    refine Keeps.bind (Keeps.modify ?_) fun _ _ => (h.save r hr).within_fst
    rintro t ⟨hstore, hwrites⟩
    refine ⟨hstore, ?_, hwrites.changes⟩
    intro r' hr'
    rcases List.mem_cons.1 hr' with rfl | hr'
    · exact hr
    · exact hwrites.records r' hr'
  find? id := (h.find? id).within_fst
  erase id := (h.erase id).within_fst
  all := h.all.within_fst
  append c hc := by
    refine Keeps.bind (Keeps.modify ?_) fun _ _ => (h.append c hc).within_fst
    rintro t ⟨hstore, hwrites⟩
    refine ⟨hstore, hwrites.records, ?_⟩
    intro c' hc'
    rcases List.mem_cons.1 hc' with rfl | hc'
    · exact hc
    · exact hwrites.changes c' hc'

/-! ## What the operations make of sound records -/

theorem isWritable_of_stamp {now : Moment} {t : Timestamp} (h : stamp now = .ok t) :
    t.IsWritable := by
  cases hmoment : Timestamp.ofMoment now with
  | error fault =>
    rw [stamp, hmoment] at h
    cases h
  | ok t' =>
    rw [stamp, hmoment] at h
    cases h
    exact Timestamp.isWritable_of_ofMoment hmoment

section

variable {store : ProviderStore σ} {I : σ → Prop}

theorem require_keeps (h : store.GivesSound I) (id : Text) :
    (require store id).Keeps I Record.IsSound := by
  refine Keeps.bind (h.find? id) ?_
  intro found hfound
  cases found with
  | none => exact Keeps.fail _
  | some r => exact Keeps.pure (hfound r rfl)

theorem newRecord_isSound (p : Policy) {now : Timestamp} (hnow : now.IsWritable) {r : Registration}
    (hr : r.InRange) : (newRecord p now r).IsSound := by
  refine ⟨⟨?_, hr.price⟩, hnow, hnow⟩
  cases hreputation : r.reputation with
  | none =>
    simp only [newRecord, hreputation, Option.getD_none]
    exact Provider.isScore_clampReputation _
  | some x =>
    simp only [newRecord, hreputation, Option.getD_some]
    exact hr.reputation x hreputation

theorem refreshed_isSound {now : Timestamp} (hnow : now.IsWritable) {r : Registration}
    (hr : r.InRange) {old : Record} (hold : old.IsSound) : (refreshed now r old).IsSound :=
  ⟨⟨hold.reputation, hr.price⟩, hold.registeredAt, hnow⟩

theorem register_keeps (h : store.GivesSound I) (p : Policy) (now : Moment) {r : Registration}
    (hr : r.InRange) : (register store p now r).Keeps I Record.IsSound := by
  refine Keeps.bind (h.find? r.id) ?_
  intro found hfound
  refine Keeps.bind (Keeps.ofExcept fun seen hseen => isWritable_of_stamp hseen) ?_
  intro seen hseen
  cases found with
  | none =>
    have hrecord := newRecord_isSound p hseen hr
    exact Keeps.bind (h.save _ hrecord) fun _ _ => Keeps.pure hrecord
  | some old =>
    have hrecord := refreshed_isSound hseen hr (hfound old rfl)
    exact Keeps.bind (h.save _ hrecord) fun _ _ => Keeps.pure hrecord

theorem updateStatus_keeps (h : store.GivesSound I) (id : Text) (status : Status) :
    (updateStatus store id status).Keeps I Record.IsSound := by
  refine Keeps.bind (require_keeps h id) ?_
  intro old hold
  have hrecord := hold.withStatus status
  exact Keeps.bind (h.save _ hrecord) fun _ _ => Keeps.pure hrecord

theorem heartbeat_keeps (h : store.GivesSound I) (now : Moment) (id : Text)
    (status : Option Status) : (heartbeat store now id status).Keeps I Record.IsSound := by
  refine Keeps.bind (require_keeps h id) ?_
  intro old hold
  refine Keeps.bind (Keeps.ofExcept fun seen hseen => isWritable_of_stamp hseen) ?_
  intro seen hseen
  have hrecord := hold.withSeen hseen
  exact Keeps.bind (h.save _ (hrecord _)) fun _ _ => Keeps.pure (hrecord _)

theorem applyDelta_keeps (h : store.GivesSound I) (now : Moment) (id : Text) (delta : Binary64)
    (reason jobId : Option Text) :
    (applyDelta store now id delta reason jobId).Keeps I Record.IsSound := by
  unfold applyDelta
  split
  · exact Keeps.fail _
  · refine Keeps.bind (require_keeps h id) ?_
    intro old hold
    -- the sum may be rounded to an infinity, but it is clamped in any case
    have hscore := Provider.isScore_clampReputation (old.reputation.add delta)
    have hrecord : Record.IsSound
        { old with reputation := Provider.clampReputation (old.reputation.add delta) } :=
      ⟨⟨hscore, hold.price⟩, hold.registeredAt, hold.lastSeen⟩
    refine Keeps.bind (h.save _ hrecord) fun _ _ => ?_
    refine Keeps.bind (Keeps.ofExcept fun _ _ => trivial) fun applied _ => ?_
    exact Keeps.bind (h.append _ ⟨hold.reputation, hscore⟩) fun _ _ => Keeps.pure hrecord

theorem markOne_keeps (h : store.GivesSound I) (before : Moment) (listed : Record) :
    (markOne store before listed).Keeps I fun _ => True := by
  refine Keeps.bind (Keeps.ofExcept fun _ _ => trivial) fun silent _ => ?_
  split
  · exact Keeps.pure trivial
  · refine Keeps.bind (h.find? listed.id) ?_
    intro found hfound
    cases found with
    | none => exact Keeps.pure trivial
    | some current =>
      have hcurrent := hfound current rfl
      refine Keeps.bind (Keeps.ofExcept fun _ _ => trivial) fun silent _ => ?_
      split
      · exact Keeps.pure trivial
      · exact Keeps.bind (h.save _ (hcurrent.withStatus .offline)) fun _ _ => Keeps.pure trivial

theorem markEach_keeps (h : store.GivesSound I) (before : Moment) (listed : List Record) :
    (markEach store before listed).Keeps I fun _ => True := by
  induction listed with
  | nil => exact Keeps.pure trivial
  | cons first rest ih =>
    refine Keeps.bind (markOne_keeps h before first) fun marked _ => ?_
    exact Keeps.bind ih fun others _ => Keeps.pure trivial

theorem markStaleAt_keeps (h : store.GivesSound I) (p : Policy) (shown : Moment) (ahead : Int) :
    (markStaleAt store p shown ahead).Keeps I fun _ => True := by
  refine Keeps.bind (Keeps.ofExcept fun _ _ => trivial) fun before _ => ?_
  exact Keeps.bind h.all fun listed _ => markEach_keeps h _ listed

/-- The registration of a call passed the checks; the other calls carry nothing to be checked. -/
def Call.IsValidated : Call → Prop
  | .register r => r.InRange
  | .deregister _ | .updateStatus _ _ | .heartbeat _ _ | .applyDelta _ _ _ _ | .markStale _ => True

/-- A record that a reply carries is sound. -/
def Reply.IsSound : Reply → Prop
  | .record r => r.IsSound
  | .removed _ | .marked _ => True

theorem perform_keeps (h : store.GivesSound I) (p : Policy) (now : Moment) {call : Call}
    (hcall : call.IsValidated) : (perform store p now call).Keeps I Reply.IsSound := by
  cases call with
  | register r => exact Keeps.map (register_keeps h p now hcall) fun _ hr => hr
  | deregister id => exact Keeps.map (h.erase id) fun _ _ => trivial
  | updateStatus id status => exact Keeps.map (updateStatus_keeps h id status) fun _ hr => hr
  | heartbeat id status => exact Keeps.map (heartbeat_keeps h now id status) fun _ hr => hr
  | applyDelta id delta reason jobId =>
    exact Keeps.map (applyDelta_keeps h now id delta reason jobId) fun _ hr => hr
  | markStale given => exact Keeps.map (markStaleAt_keeps h p _ _) fun _ _ => trivial

end

/-! ## Main statement -/

/-- In a run, every record that is returned or written has a score and a price in range, every row
that is written is one that would be read back, and every change that is entered has scores in
range. -/
structure StaysInRange (p : Policy) (stores : Moment → ProviderStore σ) (calls : List (Moment × Call))
    (s : σ) : Prop where
  returned : ∀ step ∈ steps p stores calls s, ∀ r, step.outcome = .ok (.record r) → r.InRange
  written : ∀ r ∈ (final p (fun now => recorded (stores now)) calls (s, .none)).2.records,
    r.InRange ∧ ∀ now, Record.read .row now r.toJson = .valid r
  entered : ∀ c ∈ (final p (fun now => recorded (stores now)) calls (s, .none)).2.changes,
    c.InRange

theorem staysInRange_of_givesSound {stores : Moment → ProviderStore σ} {I : σ → Prop}
    (h : ∀ now, (stores now).GivesSound I) (p : Policy) {calls : List (Moment × Call)}
    (hcalls : ∀ call ∈ calls, call.2.IsValidated) {s : σ} (hs : I s) :
    StaysInRange p stores calls s := by
  have hsteps := (keeps_run (fun now call => perform_keeps (h now) p now) hcalls hs).2
  have hempty : Writes.none.InRange := ⟨by simp [Writes.none], by simp [Writes.none]⟩
  have hwrites := (keeps_run (fun now call => perform_keeps (h now).recorded p now) hcalls
    (s := (s, Writes.none)) ⟨hs, hempty⟩).1.2
  refine ⟨?_, ?_, hwrites.changes⟩
  · intro step hstep r hr
    have hsound : r.IsSound := (hsteps step hstep).2 _ hr
    exact hsound.toInRange
  · intro r hr
    have hsound := hwrites.records r hr
    exact ⟨hsound.toInRange, fun now => Record.read_toJson hsound⟩

/-- No score and no price leaves its range: in memory, from any shelf of sound records, and over a
table service with any rows and any failures; whatever the default score, the changes of reputation
and the moments are. Calls carry registrations in range, as all are that were read. -/
theorem run_staysInRange (p : Policy) (calls : List (Moment × Call))
    (hcalls : ∀ call ∈ calls, call.2.IsValidated) :
    (∀ shelf : Shelf, shelf.IsSound → StaysInRange p (fun _ => shelfStore) calls shelf) ∧
      ∀ {τ : Type} (b : Table.Backend τ) (t : τ),
        StaysInRange p (Table.providerStore b) calls t :=
  ⟨fun _ hshelf => staysInRange_of_givesSound (fun _ => shelfStore_givesSound) p hcalls hshelf,
    fun b _ => staysInRange_of_givesSound (providerStore_givesSound b) p hcalls trivial⟩

/-- A registration without a score. -/
def sampleRegistration : Registration := ⟨"gpu", none, none, .none, .hundred, none⟩

/-- A gain far beyond any score. -/
def sampleGain : Binary64 :=
  .finite false ⟨Nat.pow 2 2097, by decide +kernel, by decide +kernel⟩

/-- A provider registers, gains far more than any score, and falls silent. -/
def sampleCalls : List (Moment × Call) :=
  [(0, .register sampleRegistration),
    (1000000, .applyDelta "gpu" sampleGain none none), (3600000000, .markStale none)]

theorem run_staysInRange_sample :
    (∀ call ∈ sampleCalls, call.2.IsValidated) ∧
      StaysInRange ⟨60, .nan⟩ (fun _ => shelfStore) sampleCalls .empty := by
  have hcalls : ∀ call ∈ sampleCalls, call.2.IsValidated := by
    have hprice := Provider.isScore_hundred
    simp only [sampleCalls, List.forall_mem_cons]
    refine ⟨⟨⟨hprice.ne_nan, hprice.zero_le⟩, ?_⟩, trivial, trivial, by simp⟩
    rintro x ⟨⟩
  have hshelf : Shelf.empty.IsSound := by
    rintro r ⟨⟩
  exact ⟨hcalls, (run_staysInRange _ _ hcalls).1 _ hshelf⟩

end ComputeDirectory.Registry
