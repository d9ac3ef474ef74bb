import RealmDesk.Answer.Error
import RealmDesk.Authority
import RealmDesk.Config
import RealmDesk.Operation

/-!
# Requests to the server

An operation is posted as JSON, and the session is deleted by a request of its own. A request whose
URL names no server is not sent. What a network makes of any other request is a parameter: either
the server is not reached, or it answers with a status and a body.
-/

namespace RealmDesk

/-- A request to the server. -/
inductive Request where
  /-- Posts an operation. -/
  | post (url : String) (operation : Operation)
  /-- Deletes a resource. -/
  | delete (url : String)
deriving DecidableEq, Inhabited

/-- The URL a request is sent to. -/
def Request.url : Request → String
  | .post url _ => url
  | .delete url => url

/-- What becomes of a request. -/
inductive Exchange where
  /-- The server was not reached. -/
  | unreachable (reason : String)
  /-- The server answered. -/
  | answered (status : Nat) (body : String)
deriving DecidableEq, Inhabited

/-- What becomes of every request. -/
abbrev Network := Request → Exchange

namespace Client

/-- Sends a request, unless its URL names no server. -/
def send (network : Network) (request : Request) : Exchange :=
  match (Authority.ofUrl? request.url).bind Authority.fault? with
  | some fault => .unreachable ("builder error: " ++ fault.message)
  | none => network request

/-- The result of a posted operation: status 401 asks for a login, any other status outside the two
hundreds is a refusal, and the body of an accepted request is an envelope. -/
def resultOf : Exchange → ApiResult Json
  | .unreachable reason => .error (.network reason)
  | .answered status body =>
      if status = 401 then .error .unauthorized
      else if status < 200 || 300 ≤ status then
        .error (.http status body "GraphQL request failed")
      else Envelope.read body

/-- Posts an operation. -/
def execute (config : Config) (network : Network) (operation : Operation) : ApiResult Json :=
  resultOf (send network (.post config.graphqlUrl operation))

/-- Deletes the session. Any answer counts as done. -/
def deleteSession (config : Config) (network : Network) : ApiResult Unit :=
  match send network (.delete config.sessionUrl) with
  | .unreachable reason => .error (.network reason)
  | .answered _ _ => .ok ()

end Client

end RealmDesk
