import ComputeDirectory.Proofs.Attempt
import ComputeDirectory.Proofs.Identity.History
import ComputeDirectory.Service.Handler

/-!
# How a request is answered

What becomes of a request is decided by its routing. When it is found, the endpoint works on the
state, and the response that it gives, or the one that ended the request before, is sent
(`handle_of_found`); otherwise nothing is done (`handle_of_not_found`). A response that cannot be
written out becomes a failure of the service, so a refusal that is sent was meant as it is.
-/

namespace ComputeDirectory.Service

variable {τ : Type} {d : Deployment τ} {now : Moment} {r : Request} {state : State τ}

/-- The method of a request, in capitals. -/
def Request.verb (r : Request) : String := String.ofList (r.method.toList.flatMap capitals)

/-- Where a request goes. -/
def Request.routing (r : Request) : Routing := route r.verb r.target

/-- A response as it is sent to answer a request. -/
def Request.sent (r : Request) (response : Response) : Response :=
  if r.verb = "HEAD" then response.written.withoutBody else response.written

/-- The response that an endpoint gives, or the one that ended the request before. -/
def responseOf : Except Response Response → Response
  | .ok response => response
  | .error response => response

theorem handle_of_found {endpoint : Endpoint} {id : String}
    (h : r.routing = .found endpoint id) :
    handle d now r state =
      (r.sent (responseOf (answer d now r.target r.body id endpoint state).1),
        (answer d now r.target r.body id endpoint state).2) := by
  have hroute : route (String.ofList (r.method.toList.flatMap capitals)) r.target =
      .found endpoint id := h
  unfold handle
  simp only [hroute]
  cases answer d now r.target r.body id endpoint state with
  | mk outcome state' =>
    cases outcome with
    | ok response => rfl
    | error response => rfl

theorem handle_of_not_found (h : ∀ endpoint id, r.routing ≠ .found endpoint id) :
    (handle d now r state).2 = state := by
  unfold handle
  cases hroute : route (String.ofList (r.method.toList.flatMap capitals)) r.target with
  | found endpoint id => exact absurd hroute (h endpoint id)
  | otherMethod => simp only [hroute]
  | redirected => simp only [hroute]
  | notFound => simp only [hroute]

/-- A request goes to an endpoint of its method. -/
theorem verb_of_routing {endpoint : Endpoint} {id : String} (h : r.routing = .found endpoint id) :
    endpoint.method = r.verb := by
  rw [Request.routing, route] at h
  split at h
  · next hfind =>
    cases h
    have hmethod := List.find?_some hfind
    exact of_decide_eq_true hmethod
  · split at h
    · cases h
    · split at h
      · cases h
      · cases h

theorem status_sent (response : Response) : (r.sent response).status = response.written.status := by
  unfold Request.sent
  split
  · rfl
  · rfl

/-- A response is written out as it is, or it turns into a failure of the service. -/
theorem written_eq_or (response : Response) :
    response.written = response ∨ response.written = .internalError := by
  unfold Response.written
  split
  · split
    · exact .inl rfl
    · exact .inr rfl
  · exact .inl rfl

/-! ## Refusals -/

/-- Whether a response refuses a request: its status is between 400 and 499. -/
def Response.IsRefusal (response : Response) : Prop :=
  400 ≤ response.status ∧ response.status < 500

theorem not_isRefusal_internalError : ¬ Response.internalError.IsRefusal := by
  rintro ⟨-, h⟩
  exact absurd h (by decide)

/-- A refusal that is sent has the status with which it was given. -/
theorem status_of_isRefusal_sent {response : Response} (h : (r.sent response).IsRefusal) :
    (r.sent response).status = response.status := by
  rw [Response.IsRefusal, status_sent] at h
  rw [status_sent]
  rcases written_eq_or response with hsame | hfailed
  · rw [hsame]
  · rw [hfailed] at h
    exact absurd h not_isRefusal_internalError

/-- What is no refusal is the fault of the service. -/
theorem ofFailure_of_not_isRefused {f : Failure} (h : ¬ f.IsRefused) :
    Response.ofFailure f = .internalError := by
  cases f with
  | refused refusal => exact absurd ⟨refusal, rfl⟩ h
  | outage message => rfl
  | invalid issues => rfl
  | undigestible text => rfl
  | unwritable => rfl
  | unknownOffset => rfl
  | time fault => rfl

/-- Only a refusal of the directory is answered with one. -/
theorem isRefused_of_ofFailure {f : Failure} (h : (Response.ofFailure f).IsRefusal) :
    f.IsRefused := by
  refine Classical.not_not.1 fun hnot => ?_
  rw [ofFailure_of_not_isRefused hnot] at h
  exact not_isRefusal_internalError h

/-- Input that does not pass its checks is answered with 422, or it cannot be written out. -/
theorem status_unprocessable (input : Json) (issues : List Schema.Issue) :
    (Response.unprocessable input issues).status = 422 ∨
      (Response.unprocessable input issues).status = 500 := by
  unfold Response.unprocessable
  split
  · exact .inl rfl
  · exact .inr rfl

/-! ## Connecting -/

section

variable {s : Settings}

/-- The hosted table service is connected if it is used, or it can be. -/
def Deployment.Connects (d : Deployment τ) (s : Settings) (state : State τ) : Prop :=
  s.usesTable = true → state.connected = false → d.connection = .ok ()

theorem connect_of_connects (h : d.Connects s state) :
    d.connect s state = (.ok (), { state with connected := state.connected || s.usesTable }) := by
  obtain ⟨session, stores, drawn, connected⟩ := state
  cases huses : s.usesTable with
  | false => simp [Deployment.connect, huses]
  | true =>
    cases connected with
    | true => simp [Deployment.connect, huses]
    | false =>
      have hconnection : d.connection = .ok () := h huses rfl
      simp [Deployment.connect, huses, hconnection]

/-- A table service that is needed and cannot be connected leaves everything as it is. -/
theorem connect_of_not_connects (h : ¬ d.Connects s state) :
    ∃ f, d.connection = .error f ∧ d.connect s state = (.error f, state) := by
  obtain ⟨huses, h⟩ := Classical.not_imp.1 h
  obtain ⟨hconnected, hconnection⟩ := Classical.not_imp.1 h
  cases hfails : d.connection with
  | ok done => exact absurd hfails hconnection
  | error f => exact ⟨f, rfl, by simp [Deployment.connect, huses, hconnected, hfails]⟩

theorem prepareRegistry_of_connects (hs : d.settings = .ok s) (h : d.Connects s state) :
    d.prepareRegistry state =
      (.ok s, { state with connected := state.connected || s.usesTable }) := by
  rw [Deployment.prepareRegistry, Attempt.bind_apply, Attempt.ofExcept_apply, hs]
  exact Attempt.bind_of_ok (connect_of_connects h)

theorem prepareRegistry_of_not_connects (hs : d.settings = .ok s) (h : ¬ d.Connects s state) :
    ∃ f, d.prepareRegistry state = (.error f, state) := by
  obtain ⟨f, -, hfails⟩ := connect_of_not_connects h
  refine ⟨f, ?_⟩
  rw [Deployment.prepareRegistry, Attempt.bind_apply, Attempt.ofExcept_apply, hs]
  exact Attempt.bind_of_error hfails

/-- Settings with which there is no session are found out before anything is connected. -/
theorem prepareSession_of_error (hs : d.settings = .ok s) {f : Failure}
    (hpolicy : d.sessionPolicy s = .error f) (state : State τ) :
    d.prepareSession state = (.error f, state) := by
  rw [Deployment.prepareSession, Attempt.bind_apply, Attempt.ofExcept_apply, hs]
  refine Attempt.bind_of_error ?_
  rw [Attempt.ofExcept_apply, hpolicy]

/-- Of settings in order, a session is put together when the table service is connected. -/
theorem prepareSession_of_ok (hs : d.settings = .ok s) {policy : Identity.Session.Policy}
    (hpolicy : d.sessionPolicy s = .ok policy) (state : State τ) :
    d.prepareSession state = (d.connect s >>= fun _ => Pure.pure (s, policy)) state := by
  rw [Deployment.prepareSession, Attempt.bind_apply, Attempt.ofExcept_apply, hs]
  refine Attempt.bind_of_ok ?_
  rw [Attempt.ofExcept_apply, hpolicy]

end

/-! ## A service to try things on -/

/-- A service with a key, further variables left open, and a scripted table service, for which a
client can be created. -/
def sampleDeployment (environment : Settings.Environment) : Deployment Table.Script where
  environment := ("SERVER_PUBLIC_KEY", String.ofList (List.replicate 64 'a')) :: environment
  backend := Table.scripted
  connection := .ok ()
  challengeToken := Identity.Session.sampleToken
  providerToken := Identity.Session.sampleToken

/-- Settings of which something is known after they were read are in order. -/
theorem exists_settings {environment : Settings.Environment} {p : Settings → Bool}
    (h : (sampleDeployment environment).settings.toOption.any p = true) :
    ∃ s, (sampleDeployment environment).settings = .ok s ∧ p s = true := by
  cases hs : (sampleDeployment environment).settings with
  | error f =>
    rw [hs] at h
    cases h
  | ok s =>
    rw [hs] at h
    exact ⟨s, rfl, h⟩

/-- A request without parameters, whose body is of ASCII. -/
def sampleRequest (method : String) (path : List String) (body : String) : Request :=
  ⟨method, ⟨path, []⟩, body.toList.map fun c => UInt8.ofNat c.toNat⟩

end ComputeDirectory.Service
