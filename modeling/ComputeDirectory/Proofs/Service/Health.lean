import ComputeDirectory.Proofs.Attempt
import ComputeDirectory.Proofs.Json.Short
import ComputeDirectory.Proofs.Service.Handling
import ComputeDirectory.Proofs.Table.Rows

/-!
# Health while the table service fails

The health of the service is told from two statements to the table service: the listing behind the
statistics of the registry, and a probe. Only the failure of the probe is part of the answer. A
listing that fails ends the request with an error of the service, before the probe is made, and so
does a table service that cannot be connected, before either statement.

So the health is reported as it should be exactly when the table service is connected, the listing
succeeds and gives records, and the message of a failing probe can be written out
(`health_reported_iff`).
-/

namespace ComputeDirectory

namespace Table

variable {τ : Type} (b : Backend τ)

/-- The listing behind the statistics of the registry. -/
def listing : Statement := .select "providers" "*" none (some "registered_at") none

/-- What the first statement behind the health that fails is told; the probe comes after the
listing. -/
def failure? (t : τ) : Option Text :=
  match b.execute listing t with
  | (.error message, _) => some message
  | (.ok _, t) => (checkHealth b t).1.error

variable {b} {now : Moment} {t t' : τ}

theorem all_of_execute_ok {rows : List Json} (h : b.execute listing t = (.ok rows, t')) :
    (providerStore b now).all t = (allRows (Provider.Record.read .row now) rows, t') := by
  show (run b listing >>= _) t = _
  rw [Attempt.bind_of_ok (run_of_execute_ok h)]
  rfl

/-- Rows that are no records are no refusal. -/
theorem not_isRefused_of_allRows {α : Type} {read : Schema.Reader α} {rows : List Json}
    {f : Failure} (h : allRows read rows = .error f) : ¬ f.IsRefused := by
  rintro ⟨refusal, rfl⟩
  induction rows with
  | nil => cases h
  | cons row rows ih =>
    rw [allRows, List.mapM_cons] at h
    cases hrow : read row with
    | valid a =>
      rw [checkRow_eq_ok_iff.2 hrow] at h
      cases hrest : allRows read rows with
      | ok rest =>
        rw [allRows] at hrest
        rw [hrest] at h
        cases h
      | error f =>
        rw [hrest] at ih
        rw [allRows] at hrest
        rw [hrest] at h
        cases h
        exact ih rfl
    | invalid issues =>
      rw [checkRow, hrow] at h
      cases h
    | untimed fault =>
      rw [checkRow, hrow] at h
      cases h

theorem all_of_execute_error {message : Text} (h : b.execute listing t = (.error message, t')) :
    (providerStore b now).all t = (.error (.outage message), t') := by
  show (run b listing >>= _) t = _
  rw [Attempt.bind_of_error (run_of_execute_error h)]

end Table

/-! ## What can be written out -/

namespace Json

theorem isWritable_str_ofString (text : String) : (Json.str text).isWritable = true :=
  Text.isPlain_ofChars text.toList

/-- An object is written out when its members are; names given by the library are plain. -/
theorem isWritable_obj_cons (name : String) (value : Json) (members : List (Text × Json)) :
    (Json.obj ((↑name, value) :: members)).isWritable =
      (value.isWritable && (Json.obj members).isWritable) := by
  have hname : Text.isPlain name = true := Text.isPlain_ofChars name.toList
  simp only [isWritable, isMadeOf, membersMadeOf, hname, Bool.true_and]

theorem isWritable_obj_nil : (Json.obj []).isWritable = true := rfl

theorem isWritable_int (n : Int) : (Json.int n).isWritable = isShort n := rfl

theorem tooManyDigitsFrom_pos : 0 < tooManyDigitsFrom := by decide

end Json

/-- Statistics can be written out when the providers are not too many to be counted. -/
theorem Registry.Stats.isWritable_toJson (records : List Provider.Record) :
    (Stats.of records).toJson.isWritable = true ↔ records.length < Json.tooManyDigitsFrom := by
  have hcount (s : Provider.Status) (h : records.length < Json.tooManyDigitsFrom) :
      (records.countP fun r => r.status = s) < Json.tooManyDigitsFrom :=
    Nat.lt_of_le_of_lt List.countP_le_length h
  simp only [Stats.toJson, Stats.of, Provider.Status.names, List.map_cons, List.map_nil,
    Json.isWritable_obj_cons, Json.isWritable_obj_nil, Json.isWritable_int, Bool.and_true,
    Bool.and_eq_true, Json.isShort_natCast]
  exact ⟨fun h => h.1, fun h => ⟨h, hcount _ h, hcount _ h, hcount _ h⟩⟩

/-- The health of the table service can be written out when the message of its failure can. -/
theorem Table.Health.isWritable_toJson (h : Health) :
    h.toJson.isWritable = true ↔ ∀ message, h.error = some message → message.isPlain = true := by
  obtain ⟨error, latency⟩ := h
  have herror : (Health.mk error latency).toJson.isWritable = (Json.ofText? error).isWritable := by
    simp only [toJson, Json.isWritable_obj_cons, Json.isWritable_obj_nil, Bool.and_true]
    rfl
  rw [herror]
  cases error with
  | none =>
    refine ⟨?_, fun _ => rfl⟩
    rintro - message ⟨⟩
  | some message =>
    constructor
    · rintro hplain _ ⟨⟩
      exact hplain
    · intro hplain
      exact hplain message rfl

namespace Service

variable {τ : Type} {d : Deployment τ} {s : Settings} {now : Moment} {r : Request}
  {state : State τ}

/-! ## The endpoint -/

/-- The statistics of the registry, read from the table service. -/
def tableStats (d : Deployment τ) (now : Moment) (t : τ) : Except Failure Registry.Stats × τ :=
  Registry.stats (Table.providerStore d.backend now) t

/-- What the service answers about its health and that of the table service. -/
def healthReport (stats : Registry.Stats) (h : Table.Health) : Response :=
  .ok (.obj [("status", .str (if h.isHealthy then "healthy" else "degraded" : String)),
    ("version", .str version), ("registry", stats.toJson), ("database", h.toJson)])

theorem stats_providerStore (huses : s.usesTable = true) (now : Moment) (stores : Stores τ) :
    Registry.stats (d.providerStore s now) stores =
      ((tableStats d now stores.remote).1,
        { stores with remote := (tableStats d now stores.remote).2 }) := by
  have hmap {σ : Type} (store : Registry.ProviderStore σ) :
      Registry.stats store = Registry.Stats.of <$> store.all := rfl
  unfold Deployment.providerStore tableStats
  rw [if_pos huses, hmap, hmap, Attempt.map_apply, Attempt.map_apply]
  rfl

/-- Statistics that cannot be had end the request; otherwise the probe decides what is answered. -/
theorem health_apply (hs : d.settings = .ok s) (huses : s.usesTable = true)
    (hconnects : d.Connects s state) :
    responseOf (health d now state).1 =
      match tableStats d now state.stores.remote with
      | (.error f, _) => .ofFailure f
      | (.ok stats, t) => healthReport stats (Table.checkHealth d.backend t).1 := by
  have hprepare : preparing d.prepareRegistry state =
      (.ok s, { state with connected := state.connected || s.usesTable }) := by
    rw [preparing, Attempt.mapError, prepareRegistry_of_connects hs hconnects]
  rw [health, Attempt.bind_of_ok hprepare, Attempt.bind_apply, performing, Attempt.mapError,
    onStores, Attempt.within, stats_providerStore huses]
  cases tableStats d now state.stores.remote with
  | mk outcome t =>
    cases outcome with
    | error f => rfl
    | ok stats =>
      simp only [huses, if_true]
      rfl

/-- Without the table service the request fails before a statement is made. -/
theorem health_apply_of_not_connects (hs : d.settings = .ok s) (h : ¬ d.Connects s state) :
    responseOf (health d now state).1 = .internalError := by
  obtain ⟨f, hfails⟩ := prepareRegistry_of_not_connects hs h
  have hprepare : preparing d.prepareRegistry state = (.error .internalError, state) := by
    rw [preparing, Attempt.mapError, hfails]
  rw [health, Attempt.bind_of_error hprepare]
  rfl

/-- A request for the health is answered with what the endpoint gives, if it can be written out. -/
theorem handle_health {id : String} (hrouting : r.routing = .found .health id) :
    (handle d now r state).1 = (responseOf (health d now state).1).written := by
  have hverb : r.verb ≠ "HEAD" := by
    rw [← verb_of_routing hrouting]
    decide
  rw [handle_of_found hrouting, answer, Request.sent, if_neg hverb]

/-! ## What is reported -/

/-- A response that reports the health of the table service: it names what failed, if anything did.
-/
structure Response.ReportsHealth (failure? : Option Text) (response : Response) : Prop where
  status : response.status = 200
  body : ∃ value database, response.body = .json value ∧
    value.get? "status" =
      some (.str (if failure?.isNone then "healthy" else "degraded" : String)) ∧
    value.get? "database" = some database ∧ database.get? "error" = some (.ofText? failure?)

theorem not_reportsHealth_internalError (failure? : Option Text) :
    ¬ Response.internalError.ReportsHealth failure? := by
  intro h
  exact absurd h.status (by decide)

theorem reportsHealth_healthReport (stats : Registry.Stats) (h : Table.Health) :
    (healthReport stats h).ReportsHealth h.error :=
  ⟨rfl, _, _, rfl, rfl, rfl, rfl⟩

/-- The health can be reported: the listing gives records that can be counted, and the message of a
probe that fails can be written out. -/
def Reportable (d : Deployment τ) (now : Moment) (t : τ) : Prop :=
  ∃ rows t' records, d.backend.execute Table.listing t = (.ok rows, t') ∧
    Table.allRows (Provider.Record.read .row now) rows = .ok records ∧
    records.length < Json.tooManyDigitsFrom ∧
    ∀ message, (Table.checkHealth d.backend t').1.error = some message → message.isPlain = true

section

variable {t t' : τ}

theorem not_reportable_of_execute_error {message : Text}
    (h : d.backend.execute Table.listing t = (.error message, t')) : ¬ Reportable d now t := by
  rintro ⟨rows, t'', records, hok, -⟩
  rw [h] at hok
  cases hok

theorem not_reportable_of_allRows_error {rows : List Json} {f : Failure}
    (h : d.backend.execute Table.listing t = (.ok rows, t'))
    (hrows : Table.allRows (Provider.Record.read .row now) rows = .error f) :
    ¬ Reportable d now t := by
  rintro ⟨rows', t'', records, hok, hread, -⟩
  rw [h] at hok
  cases hok
  rw [hrows] at hread
  cases hread

/-- After a listing of records, what counts is whether the report can be written out. -/
theorem reportable_iff {rows : List Json} {records : List Provider.Record}
    (h : d.backend.execute Table.listing t = (.ok rows, t'))
    (hrows : Table.allRows (Provider.Record.read .row now) rows = .ok records) :
    Reportable d now t ↔ ((Registry.Stats.of records).toJson.isWritable &&
      (Table.checkHealth d.backend t').1.toJson.isWritable) = true := by
  rw [Bool.and_eq_true, Registry.Stats.isWritable_toJson, Table.Health.isWritable_toJson]
  constructor
  · rintro ⟨rows', t'', records', hok, hread, hcount, hplain⟩
    rw [h] at hok
    cases hok
    rw [hrows] at hread
    cases hread
    exact ⟨hcount, hplain⟩
  · rintro ⟨hcount, hplain⟩
    exact ⟨rows, t', records, h, hrows, hcount, hplain⟩

theorem tableStats_of_execute_ok {rows : List Json}
    (h : d.backend.execute Table.listing t = (.ok rows, t')) :
    tableStats d now t =
      ((Table.allRows (Provider.Record.read .row now) rows).map Registry.Stats.of, t') := by
  show (Registry.Stats.of <$> (Table.providerStore d.backend now).all) t = _
  rw [Attempt.map_apply, Table.all_of_execute_ok h]

theorem tableStats_of_execute_error {message : Text}
    (h : d.backend.execute Table.listing t = (.error message, t')) :
    tableStats d now t = (.error (.outage message), t') := by
  show (Registry.Stats.of <$> (Table.providerStore d.backend now).all) t = _
  rw [Attempt.map_apply, Table.all_of_execute_error h]
  rfl

theorem failure?_of_execute_ok {rows : List Json}
    (h : d.backend.execute Table.listing t = (.ok rows, t')) :
    Table.failure? d.backend t = (Table.checkHealth d.backend t').1.error := by
  rw [Table.failure?, h]

end

theorem written_healthReport (stats : Registry.Stats) (h : Table.Health) :
    (healthReport stats h).written =
      if stats.toJson.isWritable && h.toJson.isWritable then healthReport stats h
      else .internalError := by
  simp only [healthReport, Response.ok, Response.written, Json.isWritable_obj_cons,
    Json.isWritable_obj_nil, Json.isWritable_str_ofString, Bool.true_and, Bool.and_true]

/-- With the table service connected, the health is reported when it can be, and otherwise the
request fails. -/
theorem health_reported_of_connects (now : Moment) (hs : d.settings = .ok s)
    (huses : s.usesTable = true) {id : String} (hrouting : r.routing = .found .health id)
    (hconnects : d.Connects s state) :
    Reportable d now state.stores.remote ∧
        (handle d now r state).1.ReportsHealth (Table.failure? d.backend state.stores.remote) ∨
      ¬ Reportable d now state.stores.remote ∧ (handle d now r state).1 = .internalError := by
  rw [handle_health hrouting, health_apply hs huses hconnects]
  cases hlisting : d.backend.execute Table.listing state.stores.remote with
  | mk outcome t =>
    cases outcome with
    | error message =>
      rw [tableStats_of_execute_error hlisting]
      exact .inr ⟨not_reportable_of_execute_error hlisting, rfl⟩
    | ok rows =>
      rw [tableStats_of_execute_ok hlisting, failure?_of_execute_ok hlisting]
      cases hrows : Table.allRows (Provider.Record.read .row now) rows with
      | error f =>
        refine .inr ⟨not_reportable_of_allRows_error hlisting hrows, ?_⟩
        show (Response.ofFailure f).written = .internalError
        rw [ofFailure_of_not_isRefused (Table.not_isRefused_of_allRows hrows)]
        rfl
      | ok records =>
        rw [reportable_iff hlisting hrows]
        show _ ∧ (healthReport (Registry.Stats.of records) _).written.ReportsHealth _ ∨
          _ ∧ (healthReport (Registry.Stats.of records) _).written = _
        rw [written_healthReport]
        by_cases hwritable : ((Registry.Stats.of records).toJson.isWritable &&
            (Table.checkHealth d.backend t).1.toJson.isWritable) = true
        · rw [if_pos hwritable]
          exact .inl ⟨hwritable, reportsHealth_healthReport _ _⟩
        · rw [if_neg hwritable]
          exact .inr ⟨hwritable, rfl⟩

/-- Either all that the report needs is there and it is given, or the request fails. -/
theorem health_reported_or (hs : d.settings = .ok s) (huses : s.usesTable = true) {id : String}
    (hrouting : r.routing = .found .health id) :
    (d.Connects s state ∧ Reportable d now state.stores.remote) ∧
        (handle d now r state).1.ReportsHealth (Table.failure? d.backend state.stores.remote) ∨
      ¬ (d.Connects s state ∧ Reportable d now state.stores.remote) ∧
        (handle d now r state).1 = .internalError := by
  by_cases hconnects : d.Connects s state
  · have hreported := health_reported_of_connects now hs huses hrouting hconnects
    rcases hreported with ⟨hreportable, hreports⟩ | ⟨hnot, hfails⟩
    · exact .inl ⟨⟨hconnects, hreportable⟩, hreports⟩
    · exact .inr ⟨fun h => hnot h.2, hfails⟩
  · refine .inr ⟨fun h => hconnects h.1, ?_⟩
    rw [handle_health hrouting, health_apply_of_not_connects hs hconnects]
    rfl

/-- With the hosted table service, the health is reported as it is exactly when the service is
connected and the health can be reported. A listing that fails, or gives rows that are no records,
turns the request into an error of the service, whatever the probe would say. -/
theorem health_reported_iff (hs : d.settings = .ok s) (huses : s.usesTable = true) {id : String}
    (hrouting : r.routing = .found .health id) :
    ((handle d now r state).1.ReportsHealth (Table.failure? d.backend state.stores.remote) ↔
        d.Connects s state ∧ Reportable d now state.stores.remote) ∧
      (¬ (d.Connects s state ∧ Reportable d now state.stores.remote) →
        (handle d now r state).1 = .internalError) := by
  rcases health_reported_or hs huses hrouting with ⟨hreportable, hreports⟩ | ⟨hnot, hfails⟩
  · exact ⟨⟨fun _ => hreportable, fun _ => hreports⟩, fun hnot => absurd hreportable hnot⟩
  · refine ⟨⟨fun hreports => ?_, fun hreportable => absurd hreportable hnot⟩, fun _ => hfails⟩
    rw [hfails] at hreports
    exact absurd hreports (not_reportsHealth_internalError _)

/-- A service with the hosted table service, whose next answers are given. -/
def sampleTables (replies : List Table.Reply) : State Table.Script := .start ⟨replies, [], []⟩

/-- The environment of a service with the hosted table service. -/
def sampleEnvironment : Settings.Environment :=
  [("SUPABASE_URL", "https://db.example"), ("SUPABASE_KEY", "secret")]

/-- A request for the health. -/
def sampleHealth : Request := sampleRequest "GET" ["health"] ""

theorem exists_settings_sample :
    ∃ s, (sampleDeployment sampleEnvironment).settings = .ok s ∧ s.usesTable = true :=
  exists_settings (by decide +kernel)

/-- The listing finds nothing and the probe fails: the service reports that it is degraded, and
why. -/
theorem health_reported_iff_sample :
    (handle (sampleDeployment sampleEnvironment) 0 sampleHealth
      (sampleTables [.rows [], .failure "down"])).1.ReportsHealth (some "down") := by
  obtain ⟨s, hs, huses⟩ := exists_settings_sample
  have hrouting : sampleHealth.routing = .found .health "" := by decide +kernel
  have hreportable : Reportable (sampleDeployment sampleEnvironment) 0
      (sampleTables [.rows [], .failure "down"]).stores.remote := by
    refine ⟨[], _, [], rfl, rfl, Json.tooManyDigitsFrom_pos, ?_⟩
    rintro message ⟨⟩
    rfl
  have hconnects : (sampleDeployment sampleEnvironment).Connects s
      (sampleTables [.rows [], .failure "down"]) := fun _ _ => rfl
  have hreported := (health_reported_iff hs huses hrouting).1.2 ⟨hconnects, hreportable⟩
  exact hreported

/-- The listing fails: the request does, too, and nothing is reported, though the table service is
connected. -/
theorem health_unreported :
    ¬ ∀ (d : Deployment Table.Script) (s : Settings) (now : Moment) (r : Request) (id : String)
      (state : State Table.Script), d.settings = .ok s → s.usesTable = true →
      d.Connects s state → r.routing = .found .health id →
      (handle d now r state).1.ReportsHealth (Table.failure? d.backend state.stores.remote) := by
  intro h
  obtain ⟨s, hs, huses⟩ := exists_settings_sample
  have hreports := h _ s 0 sampleHealth "" (sampleTables [.failure "down", .failure "down"]) hs
    huses (fun _ _ => rfl) (by decide +kernel)
  exact absurd hreports.status (by decide +kernel)

end Service

end ComputeDirectory
