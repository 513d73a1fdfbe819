import ComputeDirectory.Failure
import ComputeDirectory.Json.Basic
import ComputeDirectory.Service.Target

/-!
# Requests and responses

A response has a status and a body: a JSON value, plain text, or nothing. Refusals are answered with
the status of their cause and their wording; any other failure is the fault of the service and is
answered without details. A body that cannot be written out is such a failure, too.
-/

namespace ComputeDirectory.Service

/-- A request to the service. -/
structure Request where
  method : String
  /-- The path, with parameters. -/
  target : Target
  /-- The octets of the body; none of them when there is no body. -/
  body : List UInt8
  deriving DecidableEq, Repr

/-- The body of a response. -/
inductive Body
  | empty
  | json (value : Json)
  | text (text : String)
  deriving Repr

/-- What the service answers. -/
structure Response where
  status : Nat
  body : Body
  deriving Repr

namespace Response

/-- A value. -/
def ok (value : Json) : Response := ⟨200, .json value⟩

/-- A status with a wording. -/
def detail (status : Nat) (text : Text) : Response :=
  ⟨status, .json (.obj [("detail", .str text)])⟩

/-- A failure of the service itself. -/
def internalError : Response := ⟨500, .text "Internal Server Error"⟩

/-- Whether a member is kept out of what is written of an input. -/
def isHidden (name : Text) : Bool := name.take 3 = "_sa"

/-- Input that does not pass its checks. What an issue complains about is written out with it, save
for hidden members, by a strict writer, so it has to be such that this can be done. -/
def unprocessable (input : Json) (issues : List Schema.Issue) : Response :=
  if issues.all fun issue =>
      (issue.subject? input).all fun subject => (subject.without isHidden).isStrict then
    ⟨422, .json (.obj [("detail", .arr (issues.map Schema.Issue.toJson))])⟩
  else internalError

/-- A path without endpoint. -/
def notFound : Response := detail 404 "Not Found"

/-- A path whose endpoints have other methods. -/
def otherMethod : Response := detail 405 "Method Not Allowed"

/-- A path that is right but for slashes at its end; the answer names the right one. -/
def redirection : Response := ⟨307, .empty⟩

/-- A body that cannot be read at all. -/
def unreadableBody : Response := detail 400 "There was an error parsing the body"

/-- The status that answers a refusal. -/
def statusOf : Refusal → Nat
  | .providerNotFound _ | .unknownChallenge _ => 404
  | .invalidIdentity _ | .invalidConfiguration _ | .other _ => 400
  | .signatureMismatch _ _ | .challengeMismatch _ _ | .challengeExpired _ _ _ => 401
  | .challengeConsumed _ => 409

/-- The answer to a refused request. -/
def ofRefusal (refusal : Refusal) : Response := detail (statusOf refusal) refusal.message

/-- The answer to a failure. -/
def ofFailure : Failure → Response
  | .refused refusal => ofRefusal refusal
  | _ => internalError

/-- A response as it can be written out. -/
def written (r : Response) : Response :=
  match r.body with
  | .json value => if value.isWritable then r else internalError
  | _ => r

/-- A response without its body, as `HEAD` asks for. -/
def withoutBody (r : Response) : Response := { r with body := .empty }

end Response

end ComputeDirectory.Service
