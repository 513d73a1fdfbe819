import ComputeDirectory.Proofs.Registry.Locality
import ComputeDirectory.Proofs.Registry.Range
import ComputeDirectory.Proofs.Table.Ideal

/-!
# The two stores of providers are interchangeable

A shelf keeps records in the order in which they were first saved; a table service sorts rows by the
time of registration, and writes and checks every one of them as JSON. Over ideal tables and with a
clock that does not go back, this comes to the same: `Mirrors` says that the rows are those of the
records and changes of a shelf, in the same order, and that the shelf is in the order of time
(`Shelf.IsOrderly`). Each operation of the stores keeps that and gives the same on both sides, and
so does each operation of a registry (`answer_agreesAt`).

What is saved has to fit: a record keeps the time of registration of the one that it replaces, or
has registered just now (`Shelf.Accepts`). Every registry operation saves such records only.
-/

namespace ComputeDirectory.Registry

open Provider (Record Registration ReputationChange Status Query Page)
open Attempt (AgreesAt)
open Table (Backend Database Chronological)

/-! ## Operations -/

/-- An operation of a registry. -/
inductive Operation
  /-- One that may write. -/
  | call (call : Call)
  | get (id : Text)
  | list (number size : Int) (status : Option Status)
  | find (q : Query)
  | history (id : Text)
  | stats

/-- What an operation gives. -/
inductive Answer
  | reply (reply : Reply)
  | record (r : Record)
  | page (page : Page)
  | records (records : List Record)
  | changes (changes : List ReputationChange)
  | stats (stats : Stats)

/-- Makes an operation. -/
def answer {σ : Type} (store : ProviderStore σ) (p : Policy) (now : Moment) :
    Operation → Attempt Failure σ Answer
  | .call call => .reply <$> perform store p now call
  | .get id => .record <$> get store id
  | .list number size status => .page <$> list store number size status
  | .find q => .records <$> find store q
  | .history id => .changes <$> history store id
  | .stats => .stats <$> stats store

/-- The results of operations, each with the moment at which it is made, one after the other. -/
def answers {σ : Type} (p : Policy) (stores : Moment → ProviderStore σ) :
    List (Moment × Operation) → σ → List (Except Failure Answer) :=
  Run.steps fun input => answer (stores input.1) p input.1 input.2

/-- The registration of an operation, if it has one, passed the checks. -/
def Operation.IsValidated : Operation → Prop
  | .call c => c.IsValidated
  | .get _ | .list _ _ _ | .find _ | .history _ | .stats => True

/-! ## Shelves in the order of time -/

/-- What is on a shelf is read back from its rows, and came in the order of time. -/
structure Shelf.IsOrderly (now : Moment) (s : Shelf) : Prop where
  filed : s.IsFiled
  sound : s.IsSound
  registered : Chronological now (s.providers.values.map (·.registeredAt))
  writable : ∀ c ∈ s.changes, c.timestamp.IsWritable
  changed : Chronological now (s.changes.map (·.timestamp))

/-- A record that may be saved now: it keeps its place, or comes last. -/
structure Shelf.Accepts (now : Moment) (s : Shelf) (r : Record) : Prop where
  sound : r.IsSound
  registeredAt : r.registeredAt =
    ((s.providers.get? r.id).map (·.registeredAt)).getD (.utc now)

namespace Shelf.IsOrderly

variable {now later : Moment} {s : Shelf}

theorem empty (now : Moment) : Shelf.empty.IsOrderly now where
  filed := by rintro id r ⟨⟩
  sound := by rintro r ⟨⟩
  registered := .nil now
  writable := by rintro c ⟨⟩
  changed := .nil now

theorem mono (h : s.IsOrderly now) (hle : now ≤ later) : s.IsOrderly later where
  filed := h.filed
  sound := h.sound
  registered := h.registered.mono hle
  writable := h.writable
  changed := h.changed.mono hle

theorem put (h : s.IsOrderly now) {r : Record} (hr : s.Accepts now r) :
    (s.put r).IsOrderly now where
  filed := by
    intro id r' hget
    rw [get?_put] at hget
    split at hget
    · next hid =>
      cases hget
      exact hid.symm
    · exact h.filed id r' hget
  sound := by
    intro r' hr'
    rcases OrderedMap.mem_values_insert hr' with rfl | hold
    · exact hr.sound
    · exact h.sound r' hold
  registered := by
    have hplace := hr.registeredAt
    show Chronological now ((s.providers.insert r.id r).values.map _)
    rw [OrderedMap.values_insert h.filed, OrderedMap.contains]
    cases hget : s.providers.get? r.id with
    | some old =>
      -- the record that is replaced is the only one with this identifier
      rw [hget] at hplace
      rw [Option.isSome_some, if_pos rfl, List.map_map]
      refine (congrArg (Chronological now) (List.map_congr_left fun r' hr' => ?_)).mpr h.registered
      rw [Function.comp_apply]
      split
      · next hid =>
        obtain ⟨id, hget'⟩ := OrderedMap.exists_get?_of_mem_values hr'
        obtain rfl := h.filed id r' hget'
        rw [hid, hget] at hget'
        cases hget'
        exact hplace
      · rfl
    | none =>
      rw [hget] at hplace
      rw [Option.isSome_none, if_neg Bool.false_ne_true, List.map_append, List.map_singleton,
        hplace]
      exact h.registered.concat
  writable := h.writable
  changed := h.changed

theorem erase (h : s.IsOrderly now) (id : Text) :
    Shelf.IsOrderly now { s with providers := s.providers.erase id } where
  filed := by
    intro id' r hget
    replace hget : (s.providers.erase id).get? id' = some r := hget
    rw [OrderedMap.get?_erase] at hget
    split at hget
    · cases hget
    · exact h.filed id' r hget
  sound r hr := h.sound r (OrderedMap.mem_values_erase hr)
  registered := h.registered.sublist ((s.providers.values_filter_sublist _).map _)
  writable := h.writable
  changed := h.changed

theorem enter (h : s.IsOrderly now) {c : ReputationChange} (hc : stamp now = .ok c.timestamp) :
    (s.enter c).IsOrderly now where
  filed := h.filed
  sound := h.sound
  registered := h.registered
  writable := by
    intro c' hc'
    rcases List.mem_append.1 hc' with hold | hnew
    · exact h.writable c' hold
    · rw [List.mem_singleton.1 hnew]
      exact isWritable_of_stamp hc
  changed := by
    show Chronological now ((s.changes ++ [c]).map _)
    rw [List.map_append, List.map_singleton, (stamp_eq_ok_iff.1 hc).1]
    exact h.changed.concat

/-- A record with the identifier and the time of registration of a stored one may be saved. -/
theorem accepts (h : s.IsOrderly now) {id : Text} {old r : Record}
    (hfound : s.providers.get? id = some old) (hid : r.id = old.id)
    (hregistered : r.registeredAt = old.registeredAt) (hsound : r.IsSound) : s.Accepts now r where
  sound := hsound
  registeredAt := by
    rw [hid, h.filed id old hfound, hfound]
    exact hregistered

end Shelf.IsOrderly

/-! ## Rows of a shelf -/

theorem instant?_registeredAt {r : Record} (h : r.IsSound) :
    Table.instant? "registered_at" r.toJson = r.registeredAt.moment? := by
  refine Table.instant?_of_get? h.registeredAt ?_
  simp [Json.get?, Record.toJson, Json.member?_cons, Text.ofString_inj]

theorem instant?_timestamp {c : ReputationChange} (h : c.timestamp.IsWritable) :
    Table.instant? "timestamp" c.toJson = c.timestamp.moment? := by
  refine Table.instant?_of_get? h ?_
  simp [Json.get?, ReputationChange.toJson, Json.member?_cons, Text.ofString_inj]

/-! ## Stores that mirror each other -/

/-- Tables show what is on a shelf. -/
structure Mirrors {τ : Type} (database : τ → Database) (now : Moment) (s : Shelf) (t : τ) :
    Prop where
  orderly : s.IsOrderly now
  providers : database t "providers" = s.providers.values.map Record.toJson
  history : database t "reputation_history" = s.changes.map ReputationChange.toJson

section

variable {τ β : Type} {b : Backend τ} {database : τ → Database} (hb : b.IsIdeal database)
  {now clock : Moment} {s : Shelf} {t : τ}

namespace Mirrors

theorem of_eq (hm : Mirrors database now s t) {t' : τ} (h : database t' = database t) :
    Mirrors database now s t' where
  orderly := hm.orderly
  providers := by rw [h, hm.providers]
  history := by rw [h, hm.history]

/-- An operation that reads: on the shelf it gives what is read from the rows of the service. -/
theorem of_read (hm : Mirrors database now s t) {x : Attempt Failure Shelf β} {a : β}
    (hx : x s = (.ok a, s)) {statement : Table.Statement} {rows : List Json} {t' : τ}
    (hexecute : b.execute statement t = (.ok rows, t')) (hdatabase : database t' = database t)
    {read : List Json → Except Failure β} (hread : read rows = .ok a) :
    AgreesAt (Mirrors database now) x
      (Table.run b statement >>= fun rows => Attempt.ofExcept (read rows)) s t := by
  rw [AgreesAt, hx, Table.read_of_execute_ok hexecute, hread]
  exact ⟨rfl, hm.of_eq hdatabase⟩

/-- The rows with an identifier: the one of the record that is found, if there is one. -/
theorem select_id (hm : Mirrors database now s t) (id : Text) :
    (database t).select "providers" (some ("id", id)) none =
      (s.providers.get? id).toList.map Record.toJson := by
  show (database t "providers").filter (Table.shows "id" id) = _
  rw [hm.providers, Table.filter_rows_values Record.get?_id_toJson hm.orderly.filed]

include hb

theorem find?_agreesAt (hm : Mirrors database now s t) (id : Text) :
    AgreesAt (Mirrors database now) (shelfStore.find? id)
      ((Table.providerStore b clock).find? id) s t := by
  obtain ⟨t', hexecute, hdatabase⟩ := hb.selects "providers" (some ("id", id)) none t
  have hread : Table.firstRow (Record.read .row clock)
      ((s.providers.get? id).toList.map Record.toJson) = .ok (s.providers.get? id) :=
    Table.firstRow_map fun r hr =>
      Record.read_toJson (hm.orderly.sound r (OrderedMap.mem_values_of_get? hr))
  rw [hm.select_id] at hexecute
  exact hm.of_read rfl hexecute hdatabase hread

theorem save_agreesAt (hm : Mirrors database now s t) {r : Record} (hr : s.Accepts now r) :
    AgreesAt (Mirrors database now) (shelfStore.save r) ((Table.providerStore b clock).save r)
      s t := by
  obtain ⟨rows, t', hexecute, hdatabase⟩ := hb.upserts "providers" r.toJson none t
  have htable : (Table.providerStore b clock).save r t = (.ok (), t') :=
    Attempt.bind_of_ok (Table.run_of_execute_ok hexecute)
  rw [AgreesAt, htable]
  refine ⟨rfl, hm.orderly.put hr, ?_, ?_⟩
  · rw [hdatabase, Database.upsert, Database.write_self, hm.providers]
    exact Table.putRow_values Record.get?_id_toJson hm.orderly.filed r
  · rw [hdatabase, Database.upsert, Database.write_of_ne (by decide)]
    exact hm.history

theorem erase_agreesAt (hm : Mirrors database now s t) (id : Text) :
    AgreesAt (Mirrors database now) (shelfStore.erase id)
      ((Table.providerStore b clock).erase id) s t := by
  obtain ⟨t', hexecute, hdatabase⟩ := hb.deletes "providers" "id" id t
  rw [hm.select_id] at hexecute
  have hfound : (!((s.providers.get? id).toList.map Record.toJson).isEmpty) =
      s.providers.contains id := by
    rw [OrderedMap.contains]
    cases s.providers.get? id <;> rfl
  have htable : (Table.providerStore b clock).erase id t = (.ok (s.providers.contains id), t') :=
    (Attempt.bind_of_ok (Table.run_of_execute_ok hexecute)).trans
      (congrArg (fun found => (Except.ok found, t')) hfound)
  rw [AgreesAt, htable]
  refine ⟨rfl, hm.orderly.erase id, ?_, ?_⟩
  · rw [hdatabase, Database.delete, Database.write_self, hm.providers]
    exact Table.erase_rows_values Record.get?_id_toJson hm.orderly.filed id
  · rw [hdatabase, Database.delete, Database.write_of_ne (by decide)]
    exact hm.history

theorem all_agreesAt (hm : Mirrors database now s t) :
    AgreesAt (Mirrors database now) shelfStore.all (Table.providerStore b clock).all s t := by
  obtain ⟨t', hexecute, hdatabase⟩ := hb.selects "providers" none (some "registered_at") t
  have hrows : (database t).select "providers" none (some "registered_at") =
      s.providers.values.map Record.toJson := by
    show (database t "providers").mergeSort (Table.notAfter "registered_at") = _
    rw [hm.providers]
    exact hm.orderly.registered.mergeSort_rows fun r hr =>
      instant?_registeredAt (hm.orderly.sound r hr)
  have hread : Table.allRows (Record.read .row clock) (s.providers.values.map Record.toJson) =
      .ok s.providers.values :=
    Table.allRows_map fun r hr => Record.read_toJson (hm.orderly.sound r hr)
  rw [hrows] at hexecute
  exact hm.of_read rfl hexecute hdatabase hread

theorem append_agreesAt (hm : Mirrors database now s t) {c : ReputationChange}
    (hc : stamp now = .ok c.timestamp) :
    AgreesAt (Mirrors database now) (shelfStore.append c) ((Table.providerStore b clock).append c)
      s t := by
  obtain ⟨rows, t', hexecute, hdatabase⟩ := hb.inserts "reputation_history" c.toJson t
  have htable : (Table.providerStore b clock).append c t = (.ok (), t') :=
    Attempt.bind_of_ok (Table.run_of_execute_ok hexecute)
  rw [AgreesAt, htable]
  refine ⟨rfl, hm.orderly.enter hc, ?_, ?_⟩
  · rw [hdatabase, Database.insert, Database.write_of_ne (by decide)]
    exact hm.providers
  · rw [hdatabase, Database.insert, Database.write_self, hm.history]
    show _ = (s.changes ++ [c]).map ReputationChange.toJson
    rw [List.map_append, List.map_singleton]

theorem history_agreesAt (hm : Mirrors database now s t) (id : Text) :
    AgreesAt (Mirrors database now) (shelfStore.history id)
      ((Table.providerStore b clock).history id) s t := by
  obtain ⟨t', hexecute, hdatabase⟩ :=
    hb.selects "reputation_history" (some ("provider_id", id)) (some "timestamp") t
  have hpart : (s.history id).Sublist s.changes := List.filter_sublist
  have hrows : (database t).select "reputation_history" (some ("provider_id", id))
      (some "timestamp") = (s.history id).map ReputationChange.toJson := by
    show ((database t "reputation_history").filter (Table.shows "provider_id" id)).mergeSort
      (Table.notAfter "timestamp") = _
    rw [hm.history, Table.filter_rows ReputationChange.get?_providerId_toJson]
    exact (hm.orderly.changed.sublist (hpart.map _)).mergeSort_rows fun c hc =>
      instant?_timestamp (hm.orderly.writable c (hpart.subset hc))
  have hread : Table.allRows (ReputationChange.read .row clock)
      ((s.history id).map ReputationChange.toJson) = .ok (s.history id) :=
    Table.allRows_map fun c hc =>
      ReputationChange.read_toJson (hm.orderly.writable c (hpart.subset hc))
  rw [hrows] at hexecute
  exact hm.of_read rfl hexecute hdatabase hread

/-! ### Steps that follow one another -/

theorem find?_bind (hm : Mirrors database now s t) {id : Text}
    {f : Option Record → Attempt Failure Shelf β} {g : Option Record → Attempt Failure τ β}
    (hfg : ∀ t', Mirrors database now s t' →
      AgreesAt (Mirrors database now) (f (s.providers.get? id)) (g (s.providers.get? id)) s t') :
    AgreesAt (Mirrors database now) (shelfStore.find? id >>= f)
      ((Table.providerStore b clock).find? id >>= g) s t := by
  refine (hm.find?_agreesAt hb id).bind ?_
  intro found s' t' hfound hm'
  cases hfound
  exact hfg t' hm'

theorem require_agreesAt (hm : Mirrors database now s t) (id : Text) :
    AgreesAt (Mirrors database now) (require shelfStore id)
      (require (Table.providerStore b clock) id) s t := by
  refine hm.find?_bind hb fun t' hm' => ?_
  cases s.providers.get? id with
  | none => exact .fail hm' _
  | some r => exact .pure hm' r

theorem require_bind (hm : Mirrors database now s t) {id : Text}
    {f : Record → Attempt Failure Shelf β} {g : Record → Attempt Failure τ β}
    (hfg : ∀ old t', s.providers.get? id = some old → Mirrors database now s t' →
      AgreesAt (Mirrors database now) (f old) (g old) s t') :
    AgreesAt (Mirrors database now) (require shelfStore id >>= f)
      (require (Table.providerStore b clock) id >>= g) s t := by
  refine (hm.require_agreesAt hb id).bind ?_
  intro old s' t' hfound hm'
  rw [require_shelf] at hfound
  cases hget : s.providers.get? id with
  | none =>
    rw [hget] at hfound
    cases hfound
  | some r =>
    rw [hget] at hfound
    cases hfound
    exact hfg old t' hget hm'

/-- Saving a record comes last but for what is returned. -/
theorem save_return (hm : Mirrors database now s t) {r : Record} (hr : s.Accepts now r) (a : β) :
    AgreesAt (Mirrors database now) (shelfStore.save r >>= fun _ => pure a)
      ((Table.providerStore b clock).save r >>= fun _ => pure a) s t :=
  (hm.save_agreesAt hb hr).bind fun _ _ _ _ hm' => .pure hm' a

end Mirrors

/-! ## Operations that write -/

include hb

theorem register_agreesAt (hm : Mirrors database now s t) (p : Policy) {r : Registration}
    (hr : r.InRange) :
    AgreesAt (Mirrors database now) (register shelfStore p now r)
      (register (Table.providerStore b clock) p now r) s t := by
  refine hm.find?_bind hb fun t' hm' => ?_
  refine AgreesAt.ofExcept_bind hm' fun seen hseen => ?_
  have hwritable := isWritable_of_stamp hseen
  cases hfound : s.providers.get? r.id with
  | none =>
    refine hm'.save_return hb ⟨newRecord_isSound p hwritable hr, ?_⟩ _
    show seen = ((s.providers.get? r.id).map _).getD _
    rw [hfound, (stamp_eq_ok_iff.1 hseen).1]
    rfl
  | some old =>
    have hold := hm.orderly.sound old (OrderedMap.mem_values_of_get? hfound)
    refine hm'.save_return hb ?_ _
    exact hm.orderly.accepts hfound rfl rfl (refreshed_isSound hwritable hr hold)

theorem updateStatus_agreesAt (hm : Mirrors database now s t) (id : Text) (status : Status) :
    AgreesAt (Mirrors database now) (updateStatus shelfStore id status)
      (updateStatus (Table.providerStore b clock) id status) s t := by
  refine hm.require_bind hb fun old t' hfound hm' => ?_
  have hold := hm.orderly.sound old (OrderedMap.mem_values_of_get? hfound)
  refine hm'.save_return hb ?_ _
  exact hm.orderly.accepts hfound rfl rfl (hold.withStatus status)

theorem heartbeat_agreesAt (hm : Mirrors database now s t) (id : Text) (status : Option Status) :
    AgreesAt (Mirrors database now) (heartbeat shelfStore now id status)
      (heartbeat (Table.providerStore b clock) now id status) s t := by
  refine hm.require_bind hb fun old t' hfound hm' => ?_
  refine AgreesAt.ofExcept_bind hm' fun seen hseen => ?_
  have hold := hm.orderly.sound old (OrderedMap.mem_values_of_get? hfound)
  refine hm'.save_return hb ?_ _
  exact hm.orderly.accepts hfound rfl rfl (hold.withSeen (isWritable_of_stamp hseen) _)

theorem applyDelta_agreesAt (hm : Mirrors database now s t) (id : Text) (delta : Binary64)
    (reason jobId : Option Text) :
    AgreesAt (Mirrors database now) (applyDelta shelfStore now id delta reason jobId)
      (applyDelta (Table.providerStore b clock) now id delta reason jobId) s t := by
  unfold applyDelta
  split
  · exact .fail hm _
  · refine hm.require_bind hb fun old t' hfound hm' => ?_
    have hold := hm.orderly.sound old (OrderedMap.mem_values_of_get? hfound)
    have haccepts : s.Accepts now (rescored delta old) :=
      hm.orderly.accepts hfound rfl rfl (rescored_isSound hold delta)
    refine (hm'.save_agreesAt hb haccepts).bind fun _ s' t'' _ hm'' => ?_
    refine AgreesAt.ofExcept_bind hm'' fun applied happlied => ?_
    exact (hm''.append_agreesAt hb happlied).bind fun _ _ _ _ hm''' => .pure hm''' _

theorem markOne_agreesAt (hm : Mirrors database now s t) (before : Moment) (listed : Record) :
    AgreesAt (Mirrors database now) (markOne shelfStore before listed)
      (markOne (Table.providerStore b clock) before listed) s t := by
  refine AgreesAt.ofExcept_bind hm fun silent _ => ?_
  split
  · exact .pure hm none
  · refine hm.find?_bind hb fun t' hm' => ?_
    cases hfound : s.providers.get? listed.id with
    | none => exact .pure hm' none
    | some current =>
      refine AgreesAt.ofExcept_bind hm' fun silent _ => ?_
      split
      · exact .pure hm' none
      · have hcurrent := hm.orderly.sound current (OrderedMap.mem_values_of_get? hfound)
        refine hm'.save_return hb ?_ _
        exact hm.orderly.accepts hfound rfl rfl (hcurrent.withStatus .offline)

theorem markEach_agreesAt (hm : Mirrors database now s t) (before : Moment)
    (listed : List Record) :
    AgreesAt (Mirrors database now) (markEach shelfStore before listed)
      (markEach (Table.providerStore b clock) before listed) s t := by
  induction listed generalizing s t with
  | nil => exact .pure hm []
  | cons first rest ih =>
    refine (markOne_agreesAt hb hm before first).bind fun marked s' t' _ hm' => ?_
    exact (ih hm').bind fun others _ _ _ hm'' => .pure hm'' _

theorem markStaleAt_agreesAt (hm : Mirrors database now s t) (p : Policy) (shown : Moment)
    (ahead : Int) :
    AgreesAt (Mirrors database now) (markStaleAt shelfStore p shown ahead)
      (markStaleAt (Table.providerStore b clock) p shown ahead) s t := by
  refine AgreesAt.ofExcept_bind hm fun before _ => ?_
  exact (hm.all_agreesAt hb).bind fun listed s' t' _ hm' => markEach_agreesAt hb hm' _ listed

theorem perform_agreesAt (hm : Mirrors database now s t) (p : Policy) {call : Call}
    (hcall : call.IsValidated) :
    AgreesAt (Mirrors database now) (perform shelfStore p now call)
      (perform (Table.providerStore b clock) p now call) s t := by
  cases call with
  | register r => exact .map _ (register_agreesAt hb hm p hcall)
  | deregister id => exact .map _ (hm.erase_agreesAt hb id)
  | updateStatus id status => exact .map _ (updateStatus_agreesAt hb hm id status)
  | heartbeat id status => exact .map _ (heartbeat_agreesAt hb hm id status)
  | applyDelta id delta reason jobId =>
    exact .map _ (applyDelta_agreesAt hb hm id delta reason jobId)
  | markStale given => exact .map _ (markStaleAt_agreesAt hb hm p _ _)

/-! ## All operations -/

theorem list_agreesAt (hm : Mirrors database now s t) (number size : Int)
    (status : Option Status) :
    AgreesAt (Mirrors database now) (list shelfStore number size status)
      (list (Table.providerStore b clock) number size status) s t := by
  unfold list
  split
  · exact .fail hm _
  · exact (hm.all_agreesAt hb).bind fun records _ _ _ hm' => .pure hm' _

theorem answer_agreesAt (hm : Mirrors database now s t) (p : Policy) {operation : Operation}
    (hvalid : operation.IsValidated) :
    AgreesAt (Mirrors database now) (answer shelfStore p now operation)
      (answer (Table.providerStore b clock) p now operation) s t := by
  cases operation with
  | call call => exact .map _ (perform_agreesAt hb hm p hvalid)
  | get id => exact .map _ (hm.require_agreesAt hb id)
  | list number size status => exact .map _ (list_agreesAt hb hm number size status)
  | find q =>
    exact .map _ ((hm.all_agreesAt hb).bind fun records _ _ _ hm' => .pure hm' _)
  | history id =>
    exact .map _ (hm.require_bind hb fun _ _ _ hm' => hm'.history_agreesAt hb id)
  | stats => exact .map _ ((hm.all_agreesAt hb).bind fun records _ _ _ hm' => .pure hm' _)

/-! ## Runs -/

/-- Stores that mirror each other give the same results from then on. -/
theorem Mirrors.answers_eq (hm : Mirrors database now s t) (p : Policy)
    {operations : List (Moment × Operation)}
    (hvalid : ∀ operation ∈ operations, operation.2.IsValidated)
    (hclock : operations.Pairwise fun operation later => operation.1 ≤ later.1)
    (hlater : ∀ operation ∈ operations, now ≤ operation.1) :
    answers p (fun _ => shelfStore) operations s =
      answers p (Table.providerStore b) operations t := by
  -- on the operations: what the first one leaves is mirrored at its own moment
  induction operations generalizing now s t with
  | nil => rfl
  | cons first operations ih =>
    obtain ⟨clock, operation⟩ := first
    obtain ⟨hnext, hclock⟩ := List.pairwise_cons.1 hclock
    have hnow : Mirrors database clock s t :=
      ⟨hm.orderly.mono (hlater _ (List.mem_cons_self ..)), hm.providers, hm.history⟩
    have hfirst : AgreesAt (Mirrors database clock) (answer shelfStore p clock operation)
        (answer (Table.providerStore b clock) p clock operation) s t :=
      answer_agreesAt hb hnow p (hvalid _ (List.mem_cons_self ..))
    obtain ⟨hresult, hleft⟩ := hfirst
    have hrest := ih hleft (fun other hother => hvalid other (List.mem_cons_of_mem _ hother))
      hclock hnext
    exact congrArg₂ List.cons hresult hrest

end

/-- The two stores are interchangeable. Over a service with ideal tables, empty at the start, and
with a clock that does not go back, every operation of a registry gives the result that it gives in
memory, or fails as it does there. Operations carry registrations in range, as all are that were
read; a search for silent providers may be given any moment. -/
theorem stores_interchangeable {τ : Type} (b : Backend τ) (database : τ → Database)
    (hb : b.IsIdeal database) (t : τ) (hproviders : database t "providers" = [])
    (hhistory : database t "reputation_history" = []) (p : Policy)
    (operations : List (Moment × Operation))
    (hvalid : ∀ operation ∈ operations, operation.2.IsValidated)
    (hclock : operations.Pairwise fun operation later => operation.1 ≤ later.1) :
    answers p (fun _ => shelfStore) operations .empty =
      answers p (Table.providerStore b) operations t := by
  cases operations with
  | nil => rfl
  | cons first operations =>
    have hstart : Mirrors database first.1 .empty t :=
      ⟨.empty first.1, hproviders, hhistory⟩
    refine hstart.answers_eq hb p hvalid hclock fun operation hmem => ?_
    rcases List.mem_cons.1 hmem with rfl | hrest
    · exact Int.le_refl _
    · exact (List.pairwise_cons.1 hclock).1 operation hrest

/-- Of two providers that registered at one moment, the first one leaves and comes back, and the
other one registers again. Both stores list them alike from then on, also to a search for silent
providers. -/
theorem stores_interchangeable_sample :
    let p : Policy := ⟨60, .nan⟩
    let other : Registration := { sampleRegistration with id := "cpu" }
    let operations : List (Moment × Operation) :=
      [(0, .call (.register sampleRegistration)), (0, .call (.register other)),
        (1000000, .call (.deregister "gpu")), (1000000, .call (.register sampleRegistration)),
        (2000000, .call (.register other)), (3600000000, .call (.markStale none)),
        (3600000000, .call (.applyDelta "gpu" .hundred none none)), (3600000000, .history "gpu"),
        (3600000000, .list 1 20 none), (3600000000, .find .any), (3600000000, .get "tpu"),
        (3600000000, .stats)]
    answers p (fun _ => shelfStore) operations .empty =
      answers p (Table.providerStore Table.ideal) operations fun _ => [] := by
  intro p other operations
  have hprice := Provider.isScore_hundred
  have hregistration : sampleRegistration.InRange := by
    refine ⟨⟨hprice.ne_nan, hprice.zero_le⟩, ?_⟩
    rintro x ⟨⟩
  have hother : other.InRange := ⟨hregistration.price, hregistration.reputation⟩
  refine stores_interchangeable Table.ideal id Table.ideal_isIdeal _ rfl rfl p operations ?_ ?_
  · simp [operations, Operation.IsValidated, Call.IsValidated, hregistration, hother]
  · simp [operations]

end ComputeDirectory.Registry
