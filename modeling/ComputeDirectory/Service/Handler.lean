import ComputeDirectory.Json.Reader
import ComputeDirectory.Service.Endpoint
import ComputeDirectory.Service.Response
import ComputeDirectory.Service.State

/-!
# Answering requests

A request is answered in four steps. Its endpoint is found; its body is read as JSON; the parts that
the endpoint works with are put together; parameters and body are checked. Only when all of this
succeeds does the endpoint do its work. Each step can end the request with a response of its own: an
unknown path, a body that is no JSON, a failure of the service, or the list of what is wrong with
the input. Last, the response is written out; when that fails, what was done stays done.
-/

namespace ComputeDirectory.Service

open Schema (Checked Reader Place)

/-- The version of the service. -/
def version : String := "0.1.0"

variable {τ α : Type}

/-- A step of answering a request: it gives a value, or ends the request with a response. -/
abbrev Handling (τ α : Type) := Attempt Response (State τ) α

/-! ## Steps -/

/-- A step that puts a part together; whatever fails, the service is at fault. -/
def preparing (x : Attempt Failure (State τ) α) : Handling τ α :=
  x.mapError fun _ => .internalError

/-- The work of an endpoint; a refusal is answered with its status. -/
def performing (x : Attempt Failure (State τ) α) : Handling τ α := x.mapError .ofFailure

/-- A check of the parameters. -/
def checkingParameters (c : Checked α) : Handling τ α :=
  match c with
  | .valid a => return a
  | .invalid issues => Attempt.fail (.unprocessable .null issues)
  | .untimed _ => Attempt.fail .internalError

/-- A check of the body. -/
def checkingBody (body : Json) (check : Json → Checked α) : Handling τ α :=
  match (check body).under (.member "body") with
  | .valid a => return a
  | .invalid issues => Attempt.fail (.unprocessable (.obj [("body", body)]) issues)
  | .untimed _ => Attempt.fail .internalError

/-- How deep the arrays and objects of a body may stand inside each other. -/
def bodyDepth : Nat := 960

/-- The body as JSON; no body counts as `null`. -/
def readBody (body : List UInt8) : Except Response Json :=
  if body.isEmpty then .ok .null
  else
    match Text.ofOctets? body with
    | none => .error .unreadableBody
    | some text =>
      match Json.read bodyDepth text with
      | .ok value => .ok value
      | .error (.malformed position) =>
        .error (.unprocessable .null [⟨[.member "body", .item position], .malformedJson⟩])
      | .error .tooManyDigits => .error .unreadableBody
      | .error .tooDeep => .error .unreadableBody

/-- Checks a body that has to be there. -/
def requiredBody (read : Reader α) : Reader α
  | .null => .fault .missing
  | value => read value

/-- Checks a parameter, which is text, or takes the default. -/
def parameter (target : Target) (name : String) (default : α) (read : Reader α) : Checked α :=
  match target.parameter? name with
  | some text => ((read (.str text)).under (.member name)).under (.member "query")
  | none => .valid default

/-! ## Endpoints -/

/-- Statistics of the registry, and the health of the table service if one is used. -/
def health (d : Deployment τ) (now : Moment) : Handling τ Response := do
  let s ← preparing d.prepareRegistry
  let stats ← performing (onStores (Registry.stats (d.providerStore s now)))
  let summary (status : String) (rest : List (Text × Json)) : Response :=
    .ok (.obj (("status", .str status) :: ("version", .str version) ::
      ("registry", stats.toJson) :: rest))
  if s.usesTable then
    let state ← Attempt.get
    let (health, remote) := Table.checkHealth d.backend state.stores.remote
    Attempt.set { state with stores := { state.stores with remote } }
    let status := if health.isHealthy then "healthy" else "degraded"
    return summary status [("database", health.toJson)]
  else return summary "healthy" []

/-- Issues a challenge. -/
def issueChallenge (d : Deployment τ) (now : Moment) (body : Json) : Handling τ Response := do
  let (_, policy) ← preparing d.prepareSession
  let request ← checkingBody body (requiredBody (Identity.ChallengeRequest.read .request))
  let c ← performing
    (onSession (Identity.Session.issue policy now request.publicKey request.lifetime))
  return .ok (Identity.ChallengeResponse.mk c c.template).toJson

/-- Takes the answer to a challenge. -/
def verifyAnswer (d : Deployment τ) (now : Moment) (body : Json) : Handling τ Response := do
  let (s, policy) ← preparing d.prepareSession
  let event ← checkingBody body (requiredBody (Identity.SignedEvent.read .request))
  let record ← performing (onBoth
    (Identity.Session.submit policy Identity.schnorrVerifier (d.recordStore s now) now event))
  return .ok record.toJson

/-- The parameters of a listing: page, page size and status. -/
structure ListingParameters where
  number : Int
  size : Int
  status : Option Provider.Status

/-- Reads the parameters of a listing. -/
def ListingParameters.read (target : Target) : Checked ListingParameters :=
  ListingParameters.mk <$> parameter target "page" 1 .integer
    <*> parameter target "page_size" 20 .integer
    <*> parameter target "status" none (.nullable Provider.Status.read)

/-- Lists providers. -/
def listProviders (d : Deployment τ) (now : Moment) (target : Target) : Handling τ Response := do
  let s ← preparing d.prepareRegistry
  let p ← checkingParameters (ListingParameters.read target)
  let page ← performing
    (onStores (Registry.list (d.providerStore s now) p.number p.size p.status))
  return .ok page.toJson

/-- Registers a provider. -/
def registerProvider (d : Deployment τ) (now : Moment) (body : Json) : Handling τ Response := do
  let s ← preparing d.prepareRegistry
  let state ← Attempt.get
  if Provider.Registration.drawsId body then
    Attempt.set { state with providersDrawn := state.providersDrawn + 1 }
  let freshId := d.providerToken state.providersDrawn
  let registration ← checkingBody body (requiredBody (Provider.Registration.read .request freshId))
  let record ← performing (onStores
    (Registry.register (d.providerStore s now) (Deployment.registryPolicy s) now registration))
  return ⟨201, .json record.toJson⟩

/-- Shows a provider. -/
def getProvider (d : Deployment τ) (now : Moment) (id : Text) : Handling τ Response := do
  let s ← preparing d.prepareRegistry
  let record ← performing (onStores (Registry.get (d.providerStore s now) id))
  return .ok record.toJson

/-- Removes a provider, which has to exist. -/
def removeProvider (d : Deployment τ) (now : Moment) (id : Text) : Handling τ Response := do
  let s ← preparing d.prepareRegistry
  if ← performing (onStores (Registry.deregister (d.providerStore s now) id)) then
    return ⟨204, .empty⟩
  else return .ofRefusal (.providerNotFound id)

/-- Replaces the status of a provider. -/
def updateStatus (d : Deployment τ) (now : Moment) (id : Text) (body : Json) :
    Handling τ Response := do
  let s ← preparing d.prepareRegistry
  let update ← checkingBody body (requiredBody (Provider.StatusUpdate.read .request))
  let record ← performing
    (onStores (Registry.updateStatus (d.providerStore s now) id update.status))
  return .ok record.toJson

/-- Takes a sign of life of a provider. -/
def heartbeat (d : Deployment τ) (now : Moment) (id : Text) (body : Json) :
    Handling τ Response := do
  let s ← preparing d.prepareRegistry
  let update ← checkingBody body (Reader.nullable (Provider.StatusUpdate.read .request))
  let record ← performing (onStores
    (Registry.heartbeat (d.providerStore s now) now id (update.map Provider.StatusUpdate.status)))
  return .ok record.toJson

/-- Adds to the reputation of a provider. -/
def applyReputation (d : Deployment τ) (now : Moment) (id : Text) (body : Json) :
    Handling τ Response := do
  let s ← preparing d.prepareRegistry
  let change ← checkingBody body (requiredBody (Provider.ReputationDelta.read .request))
  let record ← performing (onStores (Registry.applyDelta (d.providerStore s now) now id change.delta
    change.reason change.jobId))
  return .ok record.toJson

/-- Shows the changes of the reputation of a provider. -/
def reputationHistory (d : Deployment τ) (now : Moment) (id : Text) : Handling τ Response := do
  let s ← preparing d.prepareRegistry
  let changes ← performing (onStores (Registry.history (d.providerStore s now) id))
  return .ok (.arr (changes.map Provider.ReputationChange.toJson))

/-- Finds providers for a job. -/
def discover (d : Deployment τ) (now : Moment) (body : Json) : Handling τ Response := do
  let s ← preparing d.prepareRegistry
  let request ← checkingBody body (requiredBody (Provider.DiscoveryRequest.read .request))
  let records ← performing (onStores (Registry.discover (d.providerStore s now) s.discoveryLimit
    request.requirements request.exclude))
  return .ok (.arr (records.map Provider.Record.toJson))

/-- Hands a request to its endpoint. Only endpoints that take a body read it. -/
def answer (d : Deployment τ) (now : Moment) (target : Target) (body : List UInt8)
    (id : Text) : Endpoint → Handling τ Response
  | .health => health d now
  | .issueChallenge => do issueChallenge d now (← Attempt.ofExcept (readBody body))
  | .verifyAnswer => do verifyAnswer d now (← Attempt.ofExcept (readBody body))
  | .listProviders => listProviders d now target
  | .registerProvider => do registerProvider d now (← Attempt.ofExcept (readBody body))
  | .getProvider => getProvider d now id
  | .removeProvider => removeProvider d now id
  | .updateStatus => do updateStatus d now id (← Attempt.ofExcept (readBody body))
  | .heartbeat => do heartbeat d now id (← Attempt.ofExcept (readBody body))
  | .applyReputation => do applyReputation d now id (← Attempt.ofExcept (readBody body))
  | .reputationHistory => reputationHistory d now id
  | .discover => do discover d now (← Attempt.ofExcept (readBody body))

/-- The capitals of a character. Of the letters beyond ASCII only those are turned whose capitals
belong to ASCII. -/
def capitals : Char → List Char
  | 'ß' => ['S', 'S']
  | 'ı' => ['I']
  | 'ſ' => ['S']
  | 'ﬀ' => ['F', 'F']
  | 'ﬁ' => ['F', 'I']
  | 'ﬂ' => ['F', 'L']
  | 'ﬃ' => ['F', 'F', 'I']
  | 'ﬄ' => ['F', 'F', 'L']
  | 'ﬅ' | 'ﬆ' => ['S', 'T']
  | c => [c.toUpper]

/-- Answers a request. Methods are compared in capitals. -/
def handle (d : Deployment τ) (now : Moment) (r : Request) (state : State τ) : Response × State τ :=
  let method := String.ofList (r.method.toList.flatMap capitals)
  let (response, state) :=
    match route method r.target with
    | .notFound => (Response.notFound, state)
    | .otherMethod => (Response.otherMethod, state)
    | .redirected => (Response.redirection, state)
    | .found endpoint id =>
      match answer d now r.target r.body id endpoint state with
      | (.ok response, state) => (response, state)
      | (.error response, state) => (response, state)
  let response := response.written
  (if method = "HEAD" then response.withoutBody else response, state)

end ComputeDirectory.Service
