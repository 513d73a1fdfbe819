import ComputeDirectory.Proofs.Provider.Range
import ComputeDirectory.Proofs.Run
import ComputeDirectory.Proofs.Table.Ideal

/-!
# What is written is read back

A value that passes the checks of its kind is read back from its row as it was written: providers
(`Record.read_toJson`), changes of reputation (`ReputationChange.read_toJson`) and records of
identities (`AuthRecord.read_toJson`). All times of the calendar in UTC can be written
(`Timestamp.isWritable_utc`), and numbers are kept whatever they are.

So a service that keeps rows as they are written holds an archive: the latest record under each
identifier and each identity, and all changes. `Files` says so of a table with one row for each key,
`Holds` of a whole database. Writing keeps that (`Write.perform_holds`), and what a client reads is
what is in the archive (`recalls_of_holds`).
-/

namespace ComputeDirectory

/-! ## Records of identities -/

namespace Identity

open Schema

theorem AuthMethod.read_name (m : AuthMethod) :
    Reader.choice [("nostr", AuthMethod.nostr)] (.str m.name) = .valid m := by
  cases m
  simp [Reader.choice, name]

/-- A record is read back from its row if its time can be written. -/
theorem AuthRecord.read_toJson {source : Source} {now : Moment} {r : AuthRecord}
    (h : r.verifiedAt.IsWritable) : AuthRecord.read source now r.toJson = .valid r := by
  simp [AuthRecord.read, AuthRecord.toJson, Reader.record, MemberReader.required,
    MemberReader.defaulted, MemberReader.stamped, Json.member?_cons, Text.ofString_inj, Reader.text,
    AuthMethod.read_name, Reader.timestamp_render h, Checked.under]

theorem AuthRecord.get?_identity_toJson (r : AuthRecord) :
    r.toJson.get? "identity" = some (.str r.identity) := by
  simp [Json.get?, toJson, Json.member?_cons]

end Identity

namespace Table

open Identity (AuthRecord)
open Provider (Record ReputationChange)

/-- Values are read back from their rows in whichever order these are given. -/
theorem allRows_mergeSort {α : Type} {read : Schema.Reader α} {toJson : α → Json} {values : List α}
    (h : ∀ a ∈ values, read (toJson a) = .valid a) (before : Json → Json → Bool) :
    ∃ listed, allRows read ((values.map toJson).mergeSort before) = .ok listed ∧
      listed.Perm values := by
  have hsorted : (values.mergeSort fun a b => before (toJson a) (toJson b)).map toJson =
      (values.map toJson).mergeSort before :=
    List.map_mergeSort fun a _ b _ => rfl
  refine ⟨_, ?_, List.mergeSort_perm values fun a b => before (toJson a) (toJson b)⟩
  rw [← hsorted]
  exact allRows_map fun a ha => h a (List.mem_mergeSort.1 ha)

/-! ## Tables with one row for each key -/

/-- How values of a kind are kept in a table with one row for each key: what their rows look like,
and which values are read back from them. -/
structure RowFormat (α : Type) where
  /-- The column that identifies rows. -/
  column : String
  key : α → Text
  toJson : α → Json
  /-- The check of a row at a moment. -/
  read : Moment → Schema.Reader α
  Admits : α → Prop
  get?_column : ∀ a, (toJson a).get? column = some (.str (key a))
  read_toJson : ∀ now {a}, Admits a → read now (toJson a) = .valid a

/-- The rows of providers. -/
def providerRows : RowFormat Record where
  column := "id"
  key := Record.id
  toJson := Record.toJson
  read := Record.read .row
  Admits := Record.IsSound
  get?_column := Record.get?_id_toJson
  read_toJson _ _ := Record.read_toJson

/-- The rows of verified identities. -/
def accountRows : RowFormat AuthRecord where
  column := "identity"
  key := AuthRecord.identity
  toJson := AuthRecord.toJson
  read := AuthRecord.read .row
  Admits r := r.verifiedAt.IsWritable
  get?_column := AuthRecord.get?_identity_toJson
  read_toJson _ _ := AuthRecord.read_toJson

/-- Rows are those of the values of a map, each filed under its key. -/
structure Files {α : Type} (format : RowFormat α) (m : OrderedMap Text α) (rows : List Json) :
    Prop where
  key : ∀ k a, m.get? k = some a → format.key a = k
  admits : ∀ a ∈ m.values, format.Admits a
  rows_eq : rows = m.values.map format.toJson

namespace Files

variable {α : Type} {format : RowFormat α} {m : OrderedMap Text α} {rows : List Json}

theorem nil (format : RowFormat α) : Files format .empty [] where
  key := by rintro k a ⟨⟩
  admits := by rintro a ⟨⟩
  rows_eq := rfl

theorem put (h : Files format m rows) {a : α} (ha : format.Admits a) :
    Files format (m.insert (format.key a) a) (putRow format.column (format.toJson a) rows) where
  key := by
    intro k b hget
    rw [OrderedMap.get?_insert] at hget
    split at hget
    · next hk =>
      cases hget
      exact hk.symm
    · exact h.key k b hget
  admits := by
    intro b hb
    rcases OrderedMap.mem_values_insert hb with rfl | hold
    · exact ha
    · exact h.admits b hold
  rows_eq := by rw [h.rows_eq, putRow_values format.get?_column h.key]

theorem remove (h : Files format m rows) (k : Text) :
    Files format (m.erase k) (rows.filter fun row => !shows format.column k row) where
  key := by
    intro k' a hget
    rw [OrderedMap.get?_erase] at hget
    split at hget
    · cases hget
    · exact h.key k' a hget
  admits a ha := h.admits a (OrderedMap.mem_values_erase ha)
  rows_eq := by rw [h.rows_eq, erase_rows_values format.get?_column h.key]

/-- The row of a key is read back. -/
theorem firstRow_filter (h : Files format m rows) (now : Moment) (k : Text) :
    firstRow (format.read now) (rows.filter (shows format.column k)) = .ok (m.get? k) := by
  rw [h.rows_eq, filter_rows_values format.get?_column h.key]
  exact firstRow_map fun a ha =>
    format.read_toJson now (h.admits a (OrderedMap.mem_values_of_get? ha))

end Files

/-! ## What a client writes -/

/-- What is in a database of the directory. -/
structure Archive where
  providers : OrderedMap Text Record
  /-- All changes of reputation, the oldest first. -/
  changes : List ReputationChange
  accounts : OrderedMap Text AuthRecord

/-- Nothing. -/
def Archive.empty : Archive := ⟨.empty, [], .empty⟩

/-- What a client writes, or removes. -/
inductive Write
  | provider (r : Record)
  | change (c : ReputationChange)
  | account (r : AuthRecord)
  | removal (id : Text)

namespace Write

/-- What is written passes its checks. -/
def IsAdmitted : Write → Prop
  | provider r => r.IsSound
  | change c => c.timestamp.IsWritable
  | account r => r.verifiedAt.IsWritable
  | removal _ => True

/-- Writes over a table service. -/
def perform {τ : Type} (b : Backend τ) (now : Moment) : Write → Attempt Failure τ Unit
  | provider r => (providerStore b now).save r
  | change c => (providerStore b now).append c
  | account r => (recordStore b now).save r
  | removal id => do
    let _ ← (providerStore b now).erase id

/-- What is in the archive afterwards: a record takes the place of the one with its identifier, or
of the same identity. -/
def keep : Write → Archive → Archive
  | provider r, a => { a with providers := a.providers.insert r.id r }
  | change c, a => { a with changes := a.changes ++ [c] }
  | account r, a => { a with accounts := a.accounts.insert r.identity r }
  | removal id, a => { a with providers := a.providers.erase id }

end Write

/-- The results of writes, each at its moment, one after the other. -/
def results {τ : Type} (b : Backend τ) (writes : List (Moment × Write)) (t : τ) :
    List (Except Failure Unit) :=
  Run.steps (fun input => input.2.perform b input.1) writes t

/-- The service after some writes. -/
def final {τ : Type} (b : Backend τ) (writes : List (Moment × Write)) (t : τ) : τ :=
  Run.final (fun input => input.2.perform b input.1) writes t

/-- What is in an archive after some writes. -/
def kept (writes : List (Moment × Write)) (a : Archive) : Archive :=
  writes.foldl (fun a input => input.2.keep a) a

/-- The tables of a database hold what is in an archive, all of which passes its checks. -/
structure Holds (d : Database) (a : Archive) : Prop where
  providers : Files providerRows a.providers (d "providers")
  writable : ∀ c ∈ a.changes, c.timestamp.IsWritable
  changes : d "reputation_history" = a.changes.map ReputationChange.toJson
  accounts : Files accountRows a.accounts (d "auth_records")

theorem holds_empty {d : Database} (h : ∀ table, d table = []) : Holds d .empty where
  providers := by rw [h]; exact .nil providerRows
  writable := by rintro c ⟨⟩
  changes := h "reputation_history"
  accounts := by rw [h]; exact .nil accountRows

namespace Holds

variable {d : Database} {a : Archive}

/-- Other providers, and other rows for them. -/
theorem withProviders (h : Holds d a) {m : OrderedMap Text Record} {rows : List Json}
    (hrows : Files providerRows m rows) :
    Holds (d.write "providers" rows) { a with providers := m } where
  providers := by
    rw [Database.write_self]
    exact hrows
  writable := h.writable
  changes := by
    rw [Database.write_of_ne (by decide)]
    exact h.changes
  accounts := by
    rw [Database.write_of_ne (by decide)]
    exact h.accounts

/-- One more change, and one more row. -/
theorem withChange (h : Holds d a) {c : ReputationChange} (hc : c.timestamp.IsWritable) :
    Holds (d.insert "reputation_history" c.toJson) { a with changes := a.changes ++ [c] } where
  providers := by
    rw [Database.insert, Database.write_of_ne (by decide)]
    exact h.providers
  writable := List.forall_mem_append.2 ⟨h.writable, List.forall_mem_singleton.2 hc⟩
  changes := by
    rw [Database.insert, Database.write_self, h.changes, List.map_append, List.map_singleton]
  accounts := by
    rw [Database.insert, Database.write_of_ne (by decide)]
    exact h.accounts

/-- Other identities, and other rows for them. -/
theorem withAccounts (h : Holds d a) {m : OrderedMap Text AuthRecord} {rows : List Json}
    (hrows : Files accountRows m rows) :
    Holds (d.write "auth_records" rows) { a with accounts := m } where
  providers := by
    rw [Database.write_of_ne (by decide)]
    exact h.providers
  writable := h.writable
  changes := by
    rw [Database.write_of_ne (by decide)]
    exact h.changes
  accounts := by
    rw [Database.write_self]
    exact hrows

end Holds

section

variable {τ : Type} {b : Backend τ} {database : τ → Database} (hb : b.IsIdeal database) {t : τ}
  {a : Archive}

include hb

/-- An admitted write succeeds, and the database holds what is then in the archive. -/
theorem Write.perform_holds (now : Moment) (h : Holds (database t) a) {w : Write}
    (hw : w.IsAdmitted) :
    ∃ t', w.perform b now t = (.ok (), t') ∧ Holds (database t') (w.keep a) := by
  cases w with
  | provider r =>
    obtain ⟨rows, t', hexecute, hdatabase⟩ := hb.upserts "providers" r.toJson none t
    refine ⟨t', Attempt.bind_of_ok (run_of_execute_ok hexecute), ?_⟩
    rw [hdatabase]
    exact h.withProviders (h.providers.put hw)
  | change c =>
    obtain ⟨rows, t', hexecute, hdatabase⟩ := hb.inserts "reputation_history" c.toJson t
    refine ⟨t', Attempt.bind_of_ok (run_of_execute_ok hexecute), ?_⟩
    rw [hdatabase]
    exact h.withChange hw
  | account r =>
    obtain ⟨rows, t', hexecute, hdatabase⟩ := hb.upserts "auth_records" r.toJson (some "identity") t
    refine ⟨t', Attempt.bind_of_ok (run_of_execute_ok hexecute), ?_⟩
    rw [hdatabase]
    exact h.withAccounts (h.accounts.put hw)
  | removal id =>
    obtain ⟨t', hexecute, hdatabase⟩ := hb.deletes "providers" "id" id t
    have herase : (providerStore b now).erase id t = (.ok _, t') :=
      Attempt.bind_of_ok (run_of_execute_ok hexecute)
    refine ⟨t', Attempt.bind_of_ok herase, ?_⟩
    rw [hdatabase]
    exact h.withProviders (h.providers.remove id)

/-- A run of admitted writes succeeds throughout, and the database holds what is then in the
archive. -/
theorem final_holds {writes : List (Moment × Write)} (hwrites : ∀ w ∈ writes, w.2.IsAdmitted)
    (h : Holds (database t) a) :
    (∀ result ∈ results b writes t, result = .ok ()) ∧
      Holds (database (final b writes t)) (kept writes a) := by
  induction writes generalizing t a with
  | nil => exact ⟨List.forall_mem_nil _, h⟩
  | cons w writes ih =>
    obtain ⟨hw, hwrites⟩ := List.forall_mem_cons.1 hwrites
    obtain ⟨t', hperform, hholds⟩ := Write.perform_holds hb w.1 h hw
    obtain ⟨hresults, hfinal⟩ := ih hwrites hholds
    show (∀ result ∈ (w.2.perform b w.1 t).1 :: results b writes (w.2.perform b w.1 t).2, _) ∧
      Holds (database (final b writes (w.2.perform b w.1 t).2)) (kept writes (w.2.keep a))
    rw [hperform]
    exact ⟨List.forall_mem_cons.2 ⟨rfl, hresults⟩, hfinal⟩

end

/-! ## What a client reads -/

/-- What a client reads at a moment is what is in an archive. Listings are sorted by time. -/
structure Recalls {τ : Type} (b : Backend τ) (now : Moment) (t : τ) (a : Archive) : Prop where
  provider : ∀ id, ((providerStore b now).find? id t).1 = .ok (a.providers.get? id)
  providers : ∃ listed, ((providerStore b now).all t).1 = .ok listed ∧
    listed.Perm a.providers.values
  history : ∀ id, ∃ listed, ((providerStore b now).history id t).1 = .ok listed ∧
    listed.Perm (a.changes.filter fun c => c.providerId = id)
  account : ∀ identity, ((recordStore b now).find? identity t).1 = .ok (a.accounts.get? identity)

theorem recalls_of_holds {τ : Type} {b : Backend τ} {database : τ → Database}
    (hb : b.IsIdeal database) {t : τ} {a : Archive} (h : Holds (database t) a) (now : Moment) :
    Recalls b now t a where
  provider id := by
    obtain ⟨t', hexecute, -⟩ := hb.selects "providers" (some ("id", id)) none t
    exact (congrArg Prod.fst (read_of_execute_ok hexecute _)).trans
      (h.providers.firstRow_filter now id)
  providers := by
    obtain ⟨t', hexecute, -⟩ := hb.selects "providers" none (some "registered_at") t
    have hread : ∀ r ∈ a.providers.values, Record.read .row now r.toJson = .valid r :=
      fun r hr => Record.read_toJson (h.providers.admits r hr)
    obtain ⟨listed, hlisted, hperm⟩ := allRows_mergeSort hread (notAfter "registered_at")
    simp only [Database.select, h.providers.rows_eq] at hexecute
    exact ⟨listed, (congrArg Prod.fst (read_of_execute_ok hexecute _)).trans hlisted, hperm⟩
  history id := by
    obtain ⟨t', hexecute, -⟩ :=
      hb.selects "reputation_history" (some ("provider_id", id)) (some "timestamp") t
    have hread : ∀ c ∈ a.changes.filter (fun c => c.providerId = id),
        ReputationChange.read .row now c.toJson = .valid c :=
      fun c hc => ReputationChange.read_toJson (h.writable c (List.mem_of_mem_filter hc))
    obtain ⟨listed, hlisted, hperm⟩ := allRows_mergeSort hread (notAfter "timestamp")
    simp only [Database.select, h.changes, filter_rows ReputationChange.get?_providerId_toJson]
      at hexecute
    exact ⟨listed, (congrArg Prod.fst (read_of_execute_ok hexecute _)).trans hlisted, hperm⟩
  account identity := by
    obtain ⟨t', hexecute, -⟩ := hb.selects "auth_records" (some ("identity", identity)) none t
    exact (congrArg Prod.fst (read_of_execute_ok hexecute _)).trans
      (h.accounts.firstRow_filter now identity)

/-- What is written is read back, over any service that keeps rows as they were written. The checks
of a row let every record pass that passed the checks of its kind, and change no member of it: times
of the calendar in UTC to the microsecond, numbers that are infinite, negative zero or not numbers,
any characters, and members that are absent. After any writes and removals, to a database that held
an archive, every write succeeded, and each reading gives the latest record under an identifier or
of an identity, all providers, or all changes of one. -/
theorem written_read_back {τ : Type} (b : Backend τ) (database : τ → Database)
    (hb : b.IsIdeal database) (t : τ) (a : Archive) (h : Holds (database t) a)
    (writes : List (Moment × Write)) (hwrites : ∀ w ∈ writes, w.2.IsAdmitted) (now : Moment) :
    (∀ moment : Moment, moment.isInCalendar → (Timestamp.utc moment).IsWritable) ∧
      (∀ r : Record, r.IsSound → checkRow (Record.read .row now) r.toJson = .ok r) ∧
      (∀ c : ReputationChange, c.timestamp.IsWritable →
        checkRow (ReputationChange.read .row now) c.toJson = .ok c) ∧
      (∀ r : AuthRecord, r.verifiedAt.IsWritable →
        checkRow (AuthRecord.read .row now) r.toJson = .ok r) ∧
      (∀ result ∈ results b writes t, result = .ok ()) ∧
      Recalls b now (final b writes t) (kept writes a) := by
  obtain ⟨hresults, hfinal⟩ := final_holds hb hwrites h
  refine ⟨fun moment => Timestamp.isWritable_utc, ?_, ?_, ?_, hresults,
    recalls_of_holds hb hfinal now⟩
  · intro r hr
    exact checkRow_eq_ok_iff.2 (Record.read_toJson hr)
  · intro c hc
    exact checkRow_eq_ok_iff.2 (ReputationChange.read_toJson hc)
  · intro r hr
    exact checkRow_eq_ok_iff.2 (AuthRecord.read_toJson hr)

/-- A provider with odd figures that registered when the calendar began and was seen at its end, a
change of its score, and a verified identity. -/
theorem written_read_back_sample :
    let r : Record := ⟨"gpu", none, some ⟨[.half 0]⟩, ⟨.nan, -1, none, .infinity true⟩, .busy,
      .finite true .zero, .infinity false, .utc (-62135596800000000), .utc 253402300799999999⟩
    let c : ReputationChange :=
      ⟨"gpu", .nan, .infinity true, .finite true ⟨1, by decide +kernel, by decide +kernel⟩, none,
        some "job", .utc (-1)⟩
    let account : AuthRecord := ⟨"key", .nostr, "token", .utc 1⟩
    let writes : List (Moment × Write) := [(0, .provider r), (0, .change c),
      (0, .provider { r with id := "cpu" }), (0, .account account), (1, .removal "cpu")]
    let t := final ideal writes fun _ => []
    ((providerStore ideal 0).find? "gpu" t).1 = .ok (some r) ∧
      ((providerStore ideal 0).find? "cpu" t).1 = .ok none ∧
      (∃ listed, ((providerStore ideal 0).history "gpu" t).1 = .ok listed ∧ listed.Perm [c]) ∧
      ((recordStore ideal 0).find? "key" t).1 = .ok (some account) := by
  intro r c account writes t
  have hr : r.IsSound := by
    refine ⟨⟨⟨?_, ?_, ?_⟩, ⟨?_, ?_⟩⟩, ?_, ?_⟩
    · exact fun h => nomatch h
    · decide
    · decide +kernel
    · exact fun h => nomatch h
    · decide
    · exact Timestamp.isWritable_utc (by decide)
    · exact Timestamp.isWritable_utc (by decide)
  have hwrites : ∀ w ∈ writes, w.2.IsAdmitted := by
    simp only [writes, List.forall_mem_cons]
    refine ⟨hr, Timestamp.isWritable_utc (by decide), ?_, ?_, trivial, List.forall_mem_nil _⟩
    · exact ⟨⟨hr.reputation, hr.price⟩, hr.registeredAt, hr.lastSeen⟩
    · exact Timestamp.isWritable_utc (by decide)
  have hstart : Holds (id fun _ => []) .empty := holds_empty fun _ => rfl
  obtain ⟨-, -, -, -, -, hrecalls⟩ :=
    written_read_back ideal id ideal_isIdeal (fun _ => []) .empty hstart writes hwrites 0
  exact ⟨hrecalls.provider "gpu", hrecalls.provider "cpu", hrecalls.history "gpu",
    hrecalls.account "key"⟩

end Table

end ComputeDirectory
