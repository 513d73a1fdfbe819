import ComputeDirectory.Proofs.Provider.Range
import ComputeDirectory.Proofs.Registry.Run
import ComputeDirectory.Proofs.Table.Rows
import ComputeDirectory.Proofs.Table.Tables

/-!
# Changes of reputation that fail half way

A change of reputation is two writes: the record of the provider is saved, then the change is
entered in the history. When the first write fails nothing was done, and when both succeed the
history tells what happened to the record. But there is no way back from the first write: when the
second one fails, or the clock cannot be read for it, the record is changed and the history is not.

`applyDelta_told` says so for the store in memory and for every table service that does what it
executes: these are all the ways in which a change can end. It does end half way, over a service
that fails once (`applyDelta_not_allOrNothing`).

The contents of a store are looked at through a `View`, since one of them holds records and the
other one rows.
-/

namespace ComputeDirectory.Registry

open Provider (Record ReputationChange)

/-! ## Views of a store -/

/-- How the contents of a store are looked at. -/
structure View (σ ρ δ : Type) where
  /-- What is stored for a provider. -/
  row? : σ → Text → Option ρ
  /-- Whether a row is read as a record. -/
  Reads : ρ → Record → Prop
  /-- The history, the oldest change first. -/
  entries : σ → List δ
  /-- The entry of a change. -/
  entry : ReputationChange → δ

namespace View

variable {σ ρ δ : Type}

/-- Two states with the same contents. -/
structure Same (v : View σ ρ δ) (s t : σ) : Prop where
  row? : ∀ id, v.row? t id = v.row? s id
  entries : v.entries t = v.entries s

/-- A state that differs from another in the record of one provider, and not in the history. -/
structure Saved (v : View σ ρ δ) (r : Record) (s t : σ) : Prop where
  reads : ∃ row, v.row? t r.id = some row ∧ v.Reads row r
  others : ∀ id, id ≠ r.id → v.row? t id = v.row? s id
  entries : v.entries t = v.entries s

/-- A state that differs from another in one more entry of the history. -/
structure Entered (v : View σ ρ δ) (c : ReputationChange) (s t : σ) : Prop where
  row? : ∀ id, v.row? t id = v.row? s id
  entries : v.entries t = v.entries s ++ [v.entry c]

theorem Same.trans {v : View σ ρ δ} {s t u : σ} (h : v.Same s t) (h' : v.Same t u) : v.Same s u :=
  ⟨fun id => (h'.row? id).trans (h.row? id), h'.entries.trans h.entries⟩

end View

/-- A record with its score changed and kept in range. -/
def rescored (delta : Binary64) (old : Record) : Record :=
  { old with reputation := Provider.clampReputation (old.reputation.add delta) }

/-- A store does what is seen of it through a view, or fails and does nothing. What it gives was
read from what is stored. -/
structure View.Faithful {σ ρ δ : Type} (v : View σ ρ δ) (store : ProviderStore σ)
    (Good : σ → Prop) : Prop where
  find? : ∀ {id s outcome t}, Good s → store.find? id s = (outcome, t) → v.Same s t
  reads : ∀ {id s r t}, Good s → store.find? id s = (.ok (some r), t) →
    r.id = id ∧ ∃ row, v.row? s id = some row ∧ v.Reads row r
  saved : ∀ {row old delta s t}, v.Reads row old →
    store.save (rescored delta old) s = (.ok (), t) → v.Saved (rescored delta old) s t
  unsaved : ∀ {r s e t}, store.save r s = (.error e, t) → v.Same s t
  entered : ∀ {c s t}, store.append c s = (.ok (), t) → v.Entered c s t
  unentered : ∀ {c s e t}, store.append c s = (.error e, t) → v.Same s t

/-! ## How a change of reputation ends -/

section

variable {σ ρ δ : Type} (v : View σ ρ δ) (store : ProviderStore σ) (now : Moment) (id : Text)
  (delta : Binary64) (reason jobId : Option Text) (s : σ)

/-- The change that is entered when a score is changed. -/
def changeOf (old : Record) (applied : Timestamp) : ReputationChange :=
  ⟨id, old.reputation, (rescored delta old).reputation, delta, reason, jobId, applied⟩

/-- How far a change of reputation gets, by the calls of the store that it makes. -/
inductive Course : Except Failure Record → σ → Prop
  | refused (e) : Course (.error e) s
  | unfound {outcome t} (e) (found : store.find? id s = (outcome, t)) : Course (.error e) t
  | unsaved {old t e u} (found : store.find? id s = (.ok (some old), t))
      (saved : store.save (rescored delta old) t = (.error e, u)) : Course (.error e) u
  | unstamped {old t u e} (found : store.find? id s = (.ok (some old), t))
      (saved : store.save (rescored delta old) t = (.ok (), u)) (stamped : stamp now = .error e) :
      Course (.error e) u
  | unentered {old t u applied e w} (found : store.find? id s = (.ok (some old), t))
      (saved : store.save (rescored delta old) t = (.ok (), u)) (stamped : stamp now = .ok applied)
      (entered : store.append (changeOf id delta reason jobId old applied) u = (.error e, w)) :
      Course (.error e) w
  | done {old t u applied w} (found : store.find? id s = (.ok (some old), t))
      (saved : store.save (rescored delta old) t = (.ok (), u)) (stamped : stamp now = .ok applied)
      (entered : store.append (changeOf id delta reason jobId old applied) u = (.ok (), w)) :
      Course (.ok (rescored delta old)) w

/-- The record of a provider was read and stored with its new score; no other record was touched. -/
structure View.Rescored (old : Record) (t : σ) : Prop where
  before : ∃ row, v.row? s id = some row ∧ v.Reads row old
  after : ∃ row, v.row? t id = some row ∧ v.Reads row (rescored delta old)
  others : ∀ other, other ≠ id → v.row? t other = v.row? s other

/-- A change that succeeds has stored the record that it returns and entered one change with the
scores before and after. -/
def AppliedWhenOk : Prop :=
  ∀ r t, applyDelta store now id delta reason jobId s = (.ok r, t) →
    ∃ old applied, r = rescored delta old ∧ v.Rescored id delta s old t ∧ stamp now = .ok applied ∧
      v.entries t = v.entries s ++ [v.entry (changeOf id delta reason jobId old applied)]

/-- A change of reputation is all or nothing: one that fails has changed nothing. -/
structure AllOrNothing : Prop where
  applied : AppliedWhenOk v store now id delta reason jobId s
  failed : ∀ e t, applyDelta store now id delta reason jobId s = (.error e, t) → v.Same s t

/-- A change that fails with `e` after the record was saved: the clock cannot be read, or the change
cannot be entered. -/
structure HalfDone (e : Failure) (t : σ) (old : Record) : Prop where
  rescored : v.Rescored id delta s old t
  entries : v.entries t = v.entries s
  cause : stamp now = .error e ∨ ∃ applied u, stamp now = .ok applied ∧
    store.append (changeOf id delta reason jobId old applied) u = (.error e, t)

/-- All ways in which a change of reputation can end: it succeeds and is applied, or it fails and
nothing was done, or it fails half way. -/
structure Told : Prop where
  applied : AppliedWhenOk v store now id delta reason jobId s
  failed : ∀ e t, applyDelta store now id delta reason jobId s = (.error e, t) →
    v.Same s t ∨ ∃ old, HalfDone v store now id delta reason jobId s e t old

end

variable {σ ρ δ : Type} {v : View σ ρ δ} {store : ProviderStore σ} {now : Moment} {id : Text}
  {delta : Binary64} {reason jobId : Option Text} {s : σ}

theorem View.Rescored.of_row? {old : Record} {t u : σ} (h : v.Rescored id delta s old t)
    (hrow : ∀ id, v.row? u id = v.row? t id) : v.Rescored id delta s old u := by
  obtain ⟨hbefore, ⟨row, hafter, hreads⟩, hothers⟩ := h
  exact ⟨hbefore, ⟨row, (hrow id).trans hafter, hreads⟩,
    fun other hother => (hrow other).trans (hothers other hother)⟩

theorem require_cases {outcome : Except Failure Record} {t : σ}
    (h : require store id s = (outcome, t)) :
    (∃ e found, store.find? id s = (found, t) ∧ outcome = .error e) ∨
      ∃ r, store.find? id s = (.ok (some r), t) ∧ outcome = .ok r := by
  rcases Attempt.bind_cases h with ⟨e, hfind, rfl⟩ | ⟨found, u, hfind, hrest⟩
  · exact .inl ⟨e, _, hfind, rfl⟩
  · cases found with
    | none =>
      cases hrest
      exact .inl ⟨_, _, hfind, rfl⟩
    | some r =>
      cases hrest
      exact .inr ⟨r, hfind, rfl⟩

/-- There are no other courses. -/
theorem applyDelta_course {outcome : Except Failure Record} {t : σ}
    (h : applyDelta store now id delta reason jobId s = (outcome, t)) :
    Course store now id delta reason jobId s outcome t := by
  rw [applyDelta] at h
  split at h
  · cases h
    exact .refused _
  -- each step either ends the change with its failure, or hands on to the next one
  · rcases Attempt.bind_cases h with ⟨e, hrequire, rfl⟩ | ⟨old, u, hrequire, h⟩
    · rcases require_cases hrequire with ⟨_, found, hfound, -⟩ | ⟨r, -, hok⟩
      · exact .unfound e hfound
      · cases hok
    rcases require_cases hrequire with ⟨_, _, -, herror⟩ | ⟨r, hfound, hold⟩
    · cases herror
    cases hold
    rcases Attempt.bind_cases h with ⟨e, hsaved, rfl⟩ | ⟨_, w, hsaved, h⟩
    · exact .unsaved hfound hsaved
    rcases Attempt.bind_cases h with ⟨e, hstamp, rfl⟩ | ⟨applied, _, hstamp, h⟩
    · obtain ⟨hstamped, rfl⟩ := Prod.mk.inj hstamp
      exact .unstamped hfound hsaved hstamped
    obtain ⟨hstamped, rfl⟩ := Prod.mk.inj hstamp
    rcases Attempt.bind_cases h with ⟨e, hentered, rfl⟩ | ⟨_, _, hentered, h⟩
    · exact .unentered hfound hsaved hstamped hentered
    · cases h
      exact .done hfound hsaved hstamped hentered

/-- A change is all or nothing when the clock can be read and the history takes every change. -/
theorem Told.allOrNothing (h : Told v store now id delta reason jobId s)
    (hclock : ∀ e, stamp now ≠ .error e) (happend : ∀ c u e t, store.append c u ≠ (.error e, t)) :
    AllOrNothing v store now id delta reason jobId s := by
  refine ⟨h.applied, ?_⟩
  intro e t hfails
  rcases h.failed e t hfails with hsame | ⟨old, hhalf⟩
  · exact hsame
  · rcases hhalf.cause with hstamp | ⟨applied, u, -, hentered⟩
    · exact absurd hstamp (hclock e)
    · exact absurd hentered (happend _ _ _ _)

/-- What is left when a record was found and saved. -/
theorem View.Faithful.rescored_of_saved {Good : σ → Prop} (hv : v.Faithful store Good)
    (hs : Good s) {old : Record} {t u : σ} (hfound : store.find? id s = (.ok (some old), t))
    (hsave : store.save (rescored delta old) t = (.ok (), u)) :
    v.Rescored id delta s old u ∧ v.entries u = v.entries s := by
  obtain ⟨hid, row, hrow, hreads⟩ := hv.reads hs hfound
  have hsame := hv.find? hs hfound
  obtain ⟨hafter, hothers, hentries⟩ := hv.saved hreads hsave
  have hid' : (rescored delta old).id = id := hid
  rw [hid'] at hafter hothers
  refine ⟨⟨⟨row, hrow, hreads⟩, hafter, ?_⟩, hentries.trans hsame.entries⟩
  intro other hother
  exact (hothers other hother).trans (hsame.row? other)

/-- Over a store that does what it says or fails, there are no other ways to end. -/
theorem View.Faithful.told {Good : σ → Prop} (hv : v.Faithful store Good) (hs : Good s) :
    Told v store now id delta reason jobId s := by
  refine ⟨?_, ?_⟩
  · intro r t h
    cases applyDelta_course h with
    | @done old _ u applied _ hfound hsaved hstamp hentered =>
      obtain ⟨hrescored, hentries⟩ := hv.rescored_of_saved hs hfound hsaved
      obtain ⟨hrow, hentry⟩ := hv.entered hentered
      rw [hentries] at hentry
      exact ⟨old, applied, rfl, hrescored.of_row? hrow, hstamp, hentry⟩
  · intro e t h
    cases applyDelta_course h with
    | refused => exact .inl ⟨fun _ => rfl, rfl⟩
    | unfound _ hfound => exact .inl (hv.find? hs hfound)
    | unsaved hfound hsaved => exact .inl ((hv.find? hs hfound).trans (hv.unsaved hsaved))
    | @unstamped old _ _ _ hfound hsaved hstamp =>
      obtain ⟨hrescored, hentries⟩ := hv.rescored_of_saved hs hfound hsaved
      exact .inr ⟨old, hrescored, hentries, .inl hstamp⟩
    | @unentered old _ u applied _ _ hfound hsaved hstamp hentered =>
      obtain ⟨hrescored, hentries⟩ := hv.rescored_of_saved hs hfound hsaved
      -- what failed to be entered has changed nothing, but the record was saved before
      have hsame := hv.unentered hentered
      exact .inr ⟨old, hrescored.of_row? hsame.row?, hsame.entries.trans hentries,
        .inr ⟨applied, u, hstamp, hentered⟩⟩

/-- Once the record is saved, a failure leaves the change half done. -/
theorem View.Faithful.halfDone {Good : σ → Prop} (hv : v.Faithful store Good) (hs : Good s)
    (hfinite : delta.isFinite = true) {old : Record} {t u w : σ} {e : Failure}
    (hfound : store.find? id s = (.ok (some old), t))
    (hsaved : store.save (rescored delta old) t = (.ok (), u))
    (hcause : stamp now = .error e ∧ w = u ∨ ∃ applied, stamp now = .ok applied ∧
      store.append (changeOf id delta reason jobId old applied) u = (.error e, w)) :
    applyDelta store now id delta reason jobId s = (.error e, w) ∧
      HalfDone v store now id delta reason jobId s e w old := by
  obtain ⟨hrescored, hentries⟩ := hv.rescored_of_saved hs hfound hsaved
  have hrequire : require store id s = (.ok old, t) := Attempt.bind_of_ok hfound
  have hcourse : applyDelta store now id delta reason jobId s =
      (do
        let applied ← Attempt.ofExcept (stamp now)
        store.append (changeOf id delta reason jobId old applied)
        return rescored delta old) u := by
    rw [applyDelta, hfinite, Bool.not_true, if_neg (by decide), Attempt.bind_of_ok hrequire]
    exact Attempt.bind_of_ok hsaved
  rcases hcause with ⟨hstamp, rfl⟩ | ⟨applied, hstamp, happend⟩
  · refine ⟨hcourse.trans (Attempt.bind_of_error ?_), hrescored, hentries, .inl hstamp⟩
    rw [hstamp, Attempt.ofExcept_apply]
  · have hsame := hv.unentered happend
    have hread : Attempt.ofExcept (stamp now) u = (.ok applied, u) := by
      rw [hstamp, Attempt.ofExcept_apply]
    refine ⟨?_, hrescored.of_row? hsame.row?, hsame.entries.trans hentries,
      .inr ⟨applied, u, hstamp, happend⟩⟩
    rw [hcourse, Attempt.bind_of_ok hread]
    exact Attempt.bind_of_error happend

theorem View.Rescored.not_same {old : Record} {t : σ} (h : v.Rescored id delta s old t)
    (hreads : ∀ {row r r'}, v.Reads row r → v.Reads row r' → r = r')
    (hchanges : rescored delta old ≠ old) : ¬ v.Same s t := by
  obtain ⟨⟨row, hrow, hold⟩, ⟨row', hrow', hnew⟩, -⟩ := h
  intro hsame
  rw [hsame.row? id, hrow] at hrow'
  cases hrow'
  exact hchanges (hreads hnew hold)

/-- A failure after a record was saved that is no longer what it was: not all, and not nothing. -/
theorem View.Faithful.not_allOrNothing {Good : σ → Prop} (hv : v.Faithful store Good) (hs : Good s)
    (hreads : ∀ {row r r'}, v.Reads row r → v.Reads row r' → r = r')
    (hfinite : delta.isFinite = true) {old : Record} {t u w : σ} {e : Failure}
    (hfound : store.find? id s = (.ok (some old), t))
    (hsaved : store.save (rescored delta old) t = (.ok (), u))
    (hchanges : rescored delta old ≠ old)
    (hcause : stamp now = .error e ∧ w = u ∨ ∃ applied, stamp now = .ok applied ∧
      store.append (changeOf id delta reason jobId old applied) u = (.error e, w)) :
    ¬ AllOrNothing v store now id delta reason jobId s := by
  intro h
  obtain ⟨hfails, hhalf⟩ := hv.halfDone hs hfinite hfound hsaved hcause
  exact hhalf.rescored.not_same hreads hchanges (h.failed _ _ hfails)

/-! ## The two stores -/

/-- A shelf as it is. -/
def shelfView : View Shelf Record ReputationChange where
  row? s id := s.providers.get? id
  Reads row r := row = r
  entries s := s.changes
  entry c := c

/-- Every record of a shelf is filed under its identifier. -/
def Shelf.IsFiled (s : Shelf) : Prop := ∀ id r, s.providers.get? id = some r → r.id = id

theorem shelfView_faithful : shelfView.Faithful shelfStore Shelf.IsFiled where
  find? := by
    rintro id s outcome t - ⟨⟩
    exact ⟨fun _ => rfl, rfl⟩
  reads := by
    intro id s r t hs h
    obtain ⟨hfound, -⟩ := Prod.mk.inj h
    have hget : s.providers.get? id = some r := Except.ok.inj hfound
    exact ⟨hs id r hget, r, hget, rfl⟩
  saved := by
    rintro row old delta s t - ⟨⟩
    refine ⟨⟨_, ?_, rfl⟩, ?_, rfl⟩
    · exact (OrderedMap.get?_insert ..).trans (if_pos rfl)
    · intro id hid
      exact (OrderedMap.get?_insert ..).trans (if_neg hid)
  unsaved := by rintro r s e t ⟨⟩
  entered := by
    rintro c s t ⟨⟩
    exact ⟨fun _ => rfl, rfl⟩
  unentered := by rintro c s e t ⟨⟩

theorem shelfStore_keepsFiled :
    shelfStore.Simulates (fun s t => s = t ∧ s.IsFiled) shelfStore where
  save r := by
    rintro s _ ⟨rfl, hs⟩
    refine ⟨rfl, rfl, ?_⟩
    intro id r' hget
    have hinsert : (s.providers.insert r.id r).get? id = some r' := hget
    rw [OrderedMap.get?_insert] at hinsert
    split at hinsert
    · next heq =>
      cases hinsert
      exact heq.symm
    · exact hs id r' hinsert
  find? id := by
    rintro s _ ⟨rfl, hs⟩
    exact ⟨rfl, rfl, hs⟩
  erase id := by
    rintro s _ ⟨rfl, hs⟩
    refine ⟨rfl, rfl, ?_⟩
    intro id' r hget
    have herase : (s.providers.erase id).get? id' = some r := hget
    rw [OrderedMap.get?_erase] at herase
    split at herase
    · cases herase
    · exact hs id' r herase
  all := by
    rintro s _ ⟨rfl, hs⟩
    exact ⟨rfl, rfl, hs⟩
  append c := by
    rintro s _ ⟨rfl, hs⟩
    exact ⟨rfl, rfl, hs⟩
  history id := by
    rintro s _ ⟨rfl, hs⟩
    exact ⟨rfl, rfl, hs⟩

/-- In a run that begins with an empty shelf, every record is filed under its identifier. -/
theorem isFiled_final (p : Policy) (calls : List (Moment × Call)) :
    (final p (fun _ => shelfStore) calls .empty).IsFiled := by
  have hempty : Shelf.empty.IsFiled := by
    rintro id r ⟨⟩
  exact (run_agrees (fun _ => shelfStore_keepsFiled) p calls ⟨rfl, hempty⟩).2.2

/-- The tables of a service, whose rows are read at a moment. -/
def tableView {τ : Type} (tables : τ → Table.Tables) (now : Moment) : View τ Json Json where
  row? t id := (tables t).providers.get? id
  Reads row r := Record.read .row now row = .valid r
  entries t := (tables t).history
  entry := ReputationChange.toJson

theorem rescored_isSound {old : Record} (hold : old.IsSound) (delta : Binary64) :
    (rescored delta old).IsSound :=
  ⟨⟨Provider.isScore_clampReputation _, hold.price⟩, hold.registeredAt, hold.lastSeen⟩

theorem tableView_same {τ : Type} {tables : τ → Table.Tables} (now : Moment) {t t' : τ}
    (h : tables t' = tables t) : (tableView tables now).Same t t' := by
  refine ⟨fun id => ?_, ?_⟩
  · simp only [tableView, h]
  · simp only [tableView, h]

/-- A statement that fails leaves the tables alone. -/
theorem tableView_same_of_run {τ : Type} {b : Table.Backend τ} {tables : τ → Table.Tables}
    (hb : b.Hosts tables) (now : Moment) {statement : Table.Statement} {t t' : τ} {e : Failure}
    (h : Table.run b statement t = (.error e, t')) : (tableView tables now).Same t t' := by
  obtain ⟨message, hexecute⟩ := Table.execute_of_run_error h
  exact tableView_same now (hb.fails hexecute)

theorem tableView_faithful {τ : Type} {b : Table.Backend τ} {tables : τ → Table.Tables}
    (hb : b.Hosts tables) (now : Moment) :
    (tableView tables now).Faithful (Table.providerStore b now) fun _ => True where
  find? {id t outcome t'} _ h := by
    rcases Attempt.bind_cases h with ⟨e, hrun, -⟩ | ⟨rows, u, hrun, hrest⟩
    · exact tableView_same_of_run hb now hrun
    · obtain ⟨-, rfl⟩ := Prod.mk.inj hrest
      exact tableView_same now (hb.finds (Table.execute_of_run_ok hrun)).2
  reads {id t r t'} _ h := by
    rcases Attempt.bind_cases h with ⟨e, -, herror⟩ | ⟨rows, u, hrun, hrest⟩
    · cases herror
    · obtain ⟨hfirst, rfl⟩ := Prod.mk.inj hrest
      rw [(hb.finds (Table.execute_of_run_ok hrun)).1] at hfirst
      cases hget : (tables t).providers.get? id with
      | none =>
        rw [hget] at hfirst
        cases hfirst
      | some row =>
        rw [hget, Option.toList_some] at hfirst
        obtain ⟨_, hr, hread⟩ := Table.firstRow_cons_eq_ok_iff.1 hfirst
        cases hr
        have hid := Record.get?_id_of_read hread
        rw [(tables t).id_of_get? hget] at hid
        cases hid
        exact ⟨rfl, row, hget, hread⟩
  saved {row old delta t t'} hread h := by
    -- what is written is sound, because what was read is, and so it can be read again
    have hsound := rescored_isSound (Record.isSound_of_read hread) delta
    rcases Attempt.bind_cases h with ⟨e, -, herror⟩ | ⟨rows, u, hrun, hrest⟩
    · cases herror
    · cases hrest
      have htables := hb.upserts (Record.get?_id_toJson _) (Table.execute_of_run_ok hrun)
      refine ⟨⟨(rescored delta old).toJson, ?_, Record.read_toJson hsound⟩, ?_, ?_⟩
      · simp only [tableView, htables, Table.Tables.upsert, OrderedMap.get?_insert, if_true]
      · intro id hid
        simp only [tableView, htables, Table.Tables.upsert, OrderedMap.get?_insert, if_neg hid]
      · simp only [tableView, htables, Table.Tables.upsert]
  unsaved {r t e t'} h := by
    rcases Attempt.bind_cases h with ⟨_, hrun, -⟩ | ⟨rows, u, -, hrest⟩
    · exact tableView_same_of_run hb now hrun
    · cases hrest
  entered {c t t'} h := by
    rcases Attempt.bind_cases h with ⟨e, -, herror⟩ | ⟨rows, u, hrun, hrest⟩
    · cases herror
    · cases hrest
      have htables := hb.inserts (Table.execute_of_run_ok hrun)
      refine ⟨fun id => ?_, ?_⟩
      · simp only [tableView, htables, Table.Tables.enter]
      · simp only [tableView, htables, Table.Tables.enter]
  unentered {c t e t'} h := by
    rcases Attempt.bind_cases h with ⟨_, hrun, -⟩ | ⟨rows, u, -, hrest⟩
    · exact tableView_same_of_run hb now hrun
    · cases hrest

/-! ## Main statements -/

theorem stamp_ne_error {now : Moment} (h : now.isInCalendar = true) (e : Failure) :
    stamp now ≠ .error e := by
  rw [stamp_of_isInCalendar h]
  rintro ⟨⟩

/-- Every change of reputation ends in one of three ways: it succeeds and is applied; it fails and
nothing was done; or it fails half way, with the record changed and the history not, because the
clock cannot be read or the change cannot be entered. So it is all or nothing when neither happens:
in memory as long as the clock shows a moment of the calendar, over a table service when besides the
history takes every row. Shelves are those that runs leave (`isFiled_final`), or any others that file
records under their identifiers. -/
theorem applyDelta_told (now : Moment) (id : Text) (delta : Binary64) (reason jobId : Option Text) :
    (∀ shelf : Shelf, shelf.IsFiled →
      Told shelfView shelfStore now id delta reason jobId shelf ∧
        (now.isInCalendar = true →
          AllOrNothing shelfView shelfStore now id delta reason jobId shelf)) ∧
    ∀ {τ : Type} (b : Table.Backend τ) (tables : τ → Table.Tables), b.Hosts tables → ∀ t : τ,
      Told (tableView tables now) (Table.providerStore b now) now id delta reason jobId t ∧
        (now.isInCalendar = true →
          (∀ row u message u',
            b.execute (.insert "reputation_history" row) u ≠ (.error message, u')) →
          AllOrNothing (tableView tables now) (Table.providerStore b now) now id delta reason jobId
            t) := by
  refine ⟨?_, ?_⟩
  · intro shelf hfiled
    have htold : Told shelfView shelfStore now id delta reason jobId shelf :=
      shelfView_faithful.told hfiled
    refine ⟨htold, fun hcalendar => htold.allOrNothing (stamp_ne_error hcalendar) ?_⟩
    rintro c u e t ⟨⟩
  · intro τ b tables hb t
    have htold : Told (tableView tables now) (Table.providerStore b now) now id delta reason jobId t :=
      (tableView_faithful hb now).told trivial
    refine ⟨htold, fun hcalendar hinsert => htold.allOrNothing (stamp_ne_error hcalendar) ?_⟩
    intro c u e t' happend
    rcases Attempt.bind_cases happend with ⟨_, hrun, -⟩ | ⟨rows, w, -, hrest⟩
    · obtain ⟨message, hexecute⟩ := Table.execute_of_run_error hrun
      exact hinsert _ _ _ _ hexecute
    · cases hrest

/-! ## A change that ends half way -/

/-- A provider without merit. -/
def sampleRecord : Record :=
  ⟨"gpu", none, none, .none, .available, .zero, .zero, .utc 0, .utc 0⟩

/-- The registration of a provider that has no merit yet. -/
def sampleOffer : Provider.Registration := ⟨"gpu", none, none, .none, .zero, some .zero⟩

/-- A shelf after a provider has registered. -/
def sampleShelf : Shelf :=
  final ⟨60, .nan⟩ (fun _ => shelfStore) [(0, .register sampleOffer)] .empty

/-- A service with one provider. It fails once, at the third statement. -/
def sampleHosted : Table.Hosted where
  tables := Table.Tables.empty.upsert sampleRecord.toJson "gpu" (Record.get?_id_toJson sampleRecord)
  failures := [none, none, some "gone"]

theorem applyDelta_told_sample :
    Told shelfView shelfStore 0 "gpu" .hundred none none sampleShelf ∧
      Told (tableView Table.Hosted.tables 0) (Table.providerStore Table.hosted 0) 0 "gpu" .hundred
        none none sampleHosted := by
  exact ⟨((applyDelta_told 0 "gpu" .hundred none none).1 _ (isFiled_final _ _)).1,
    ((applyDelta_told 0 "gpu" .hundred none none).2 _ _ Table.hosted_hosts _).1⟩

theorem rescored_sample_ne : rescored .hundred sampleRecord ≠ sampleRecord := by
  intro h
  have hreputation : (rescored .hundred sampleRecord).reputation = .hundred := by decide +kernel
  rw [h] at hreputation
  exact absurd hreputation (by decide +kernel)

theorem sampleRecord_isSound : sampleRecord.IsSound := by
  have hnow : Timestamp.IsWritable (.utc 0) := by
    refine ⟨by decide, by decide, ?_⟩
    rintro minutes ⟨⟩
    decide
  exact ⟨⟨Provider.isScore_zero, Provider.isPrice_zero⟩, hnow, hnow⟩

/-- A change of reputation is not all or nothing: when the service fails to enter the change, the
record is changed and the history is not. -/
theorem applyDelta_not_allOrNothing :
    ¬ AllOrNothing (tableView Table.Hosted.tables 0) (Table.providerStore Table.hosted 0) 0 "gpu"
        .hundred none none sampleHosted := by
  have hfinite : Binary64.hundred.isFinite = true := rfl
  have hrow : sampleHosted.tables.providers.get? "gpu" = some sampleRecord.toJson :=
    (OrderedMap.get?_insert ..).trans (if_pos rfl)
  have hanswer : sampleHosted.tables.execute
      (.select "providers" "*" (some ("id", "gpu")) none none) =
        ([sampleRecord.toJson], sampleHosted.tables) := by
    simp only [Table.Tables.execute, hrow, Option.toList_some]
  have hfirst : Table.firstRow (Record.read .row 0) [sampleRecord.toJson] =
      .ok (some sampleRecord) :=
    Table.firstRow_cons_eq_ok_iff.2 ⟨_, rfl, Record.read_toJson sampleRecord_isSound⟩
  have hfound : (Table.providerStore Table.hosted 0).find? "gpu" sampleHosted =
      (.ok (some sampleRecord), ⟨sampleHosted.tables, [none, some "gone"]⟩) := by
    refine (Attempt.bind_of_ok (Table.run_of_execute_ok
      (Table.hosted_execute_none sampleHosted.tables [none, some "gone"] _))).trans ?_
    rw [hanswer, hfirst, Attempt.ofExcept_apply]
  have hsaved : (Table.providerStore Table.hosted 0).save (rescored .hundred sampleRecord)
      ⟨sampleHosted.tables, [none, some "gone"]⟩ = (.ok (), _) :=
    Attempt.bind_of_ok (Table.run_of_execute_ok (Table.hosted_execute_none ..))
  have hstamp : stamp 0 = .ok (.utc 0) := stamp_of_isInCalendar (by decide)
  have hreads : ∀ {row : Json} {r r' : Record}, (tableView Table.Hosted.tables 0).Reads row r →
      (tableView Table.Hosted.tables 0).Reads row r' → r = r' := by
    intro row r r' h h'
    exact Schema.Checked.valid.inj (h.symm.trans h')
  exact (tableView_faithful Table.hosted_hosts 0).not_allOrNothing trivial hreads hfinite hfound
    hsaved rescored_sample_ne (.inr ⟨.utc 0, hstamp,
      Attempt.bind_of_error (Table.run_of_execute_error (Table.hosted_execute_some ..))⟩)

end ComputeDirectory.Registry
