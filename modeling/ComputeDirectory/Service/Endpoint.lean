import ComputeDirectory.Service.Target

/-!
# Endpoints

The endpoints of the service with their methods and paths, and the search for the endpoint of a
request. A path that belongs to no endpoint, but would without the slashes at its end, is redirected
to the one without them.
-/

namespace ComputeDirectory.Service

/-- What can be asked of the service. -/
inductive Endpoint
  | health
  | issueChallenge
  | verifyAnswer
  | listProviders
  | registerProvider
  | getProvider
  | removeProvider
  | updateStatus
  | heartbeat
  | applyReputation
  | reputationHistory
  | discover
  deriving DecidableEq, Repr

/-- A segment of a path. -/
inductive Segment
  | literal (text : String)
  /-- Any text but the empty one: the identifier of a provider. -/
  | providerId
  deriving DecidableEq, Repr

namespace Endpoint

/-- All endpoints. -/
def all : List Endpoint :=
  [health, issueChallenge, verifyAnswer, listProviders, registerProvider, getProvider,
    removeProvider, updateStatus, heartbeat, applyReputation, reputationHistory, discover]

/-- The method of an endpoint. -/
def method : Endpoint → String
  | health | listProviders | getProvider | reputationHistory => "GET"
  | issueChallenge | verifyAnswer | registerProvider => "POST"
  | heartbeat | applyReputation | discover => "POST"
  | updateStatus => "PUT"
  | removeProvider => "DELETE"

/-- The path of an endpoint. -/
def path : Endpoint → List Segment
  | health => [.literal "health"]
  | issueChallenge => [.literal "auth", .literal "challenge"]
  | verifyAnswer => [.literal "auth", .literal "verify"]
  | listProviders | registerProvider => [.literal "providers"]
  | getProvider | removeProvider => [.literal "providers", .providerId]
  | updateStatus => [.literal "providers", .providerId, .literal "status"]
  | heartbeat => [.literal "providers", .providerId, .literal "heartbeat"]
  | applyReputation | reputationHistory =>
    [.literal "providers", .providerId, .literal "reputation"]
  | discover => [.literal "discover"]

/-- Path and method in words. -/
def describe (e : Endpoint) : String :=
  e.method ++ " " ++ String.join (e.path.map fun
    | .literal text => "/" ++ text
    | .providerId => "/\x7bprovider_id\x7d")

/-- Matches segments with a path; gives the identifier of a provider, or the empty text when the
path has none. A line feed after a literal at the end is overlooked. -/
def matchPath? : List Segment → List String → Option String
  | [], [] => some ""
  | [.literal text], [segment] => if segment = text ∨ segment = text ++ "\n" then some "" else none
  | .literal text :: path, segment :: segments =>
    if segment = text then matchPath? path segments else none
  | .providerId :: path, segment :: segments =>
    if segment.isEmpty then none else (matchPath? path segments).map fun _ => segment
  | _, _ => none

/-- The endpoints whose path has these segments, each with the identifier of a provider. -/
def ofPath (segments : List String) : List (Endpoint × String) :=
  all.filterMap fun e => (matchPath? e.path segments).map fun id => (e, id)

end Endpoint

/-- Where a request goes. -/
inductive Routing
  | found (endpoint : Endpoint) (providerId : String)
  /-- The path belongs to endpoints of other methods only. -/
  | otherMethod
  /-- The path belongs to endpoints but for the slashes at its end. -/
  | redirected
  | notFound
  deriving DecidableEq, Repr

/-- Finds the endpoint of a method and segments of a path. -/
def route (method : String) (target : Target) : Routing :=
  let candidates := Endpoint.ofPath target.segments
  match candidates.find? (·.1.method = method) with
  | some (endpoint, id) => .found endpoint id
  | none =>
    if !candidates.isEmpty then .otherMethod
    else if (Endpoint.ofPath target.trimmed.segments).isEmpty then .notFound
    else .redirected

end ComputeDirectory.Service
