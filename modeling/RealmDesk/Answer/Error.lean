import RealmDesk.Answer.Envelope
import RealmDesk.Answer.Normalized
import RealmDesk.Store.Error

/-!
# Errors of the server

A request can fail in five ways. Each error has a text that pages show as it is.
-/

namespace RealmDesk

/-- Why an answer is of no use although it arrived. -/
inductive AnswerFault where
  /-- The response is no envelope. -/
  | envelope (fault : Json.Fault)
  /-- The envelope holds nothing. -/
  | empty
  /-- The data cannot be turned into records. -/
  | normalize (error : NormalizeError)
  /-- The records cannot be put into the store. -/
  | store (error : StoreError)
  /-- The answer to the creation of a block lists no block at its index. -/
  | noBlock (field : String) (index : Nat)
  /-- The answer to the creation of a realm holds no realm. -/
  | noRealm (field : String)
  /-- The new realm has no path. -/
  | noPath (realm : RecordId)
  /-- Any other fault, by its text. -/
  | other (text : String)
deriving DecidableEq, Inhabited

/-- The text of a fault in JSON text. -/
def Json.Fault.message : Json.Fault → String
  | .endsEarly => "the response ends early"
  | .malformed => "the response is malformed"
  | .wrongShape => "the response has the wrong shape"

/-- The text of the fault. -/
def AnswerFault.message : AnswerFault → String
  | .envelope fault => fault.message
  | .empty => "response has neither data nor errors"
  | .normalize error => error.message
  | .store error => error.message
  | .noBlock field index => field ++ " response has no block at index " ++ index.repr
  | .noRealm field => field ++ " returned no realm"
  | .noPath realm => "realm " ++ realm.text ++ " has no " ++ Field.path
  | .other text => text

/-- Why a request failed. -/
inductive ApiError where
  /-- The user is not logged in. -/
  | unauthorized
  /-- The server was not reached. -/
  | network (reason : String)
  /-- The server refused the request. -/
  | http (status : Nat) (body context : String)
  /-- The server could not carry out the operation. -/
  | graphQl (messages : List String)
  /-- The answer is of no use. -/
  | parse (fault : AnswerFault)
deriving DecidableEq, Inhabited

/-- The text of the error. -/
def ApiError.message : ApiError → String
  | .unauthorized => "Unauthorized"
  | .network reason => reason
  | .http status body context => context ++ " (" ++ status.repr ++ "): " ++ body
  | .graphQl messages => "; ".intercalate messages
  | .parse fault => fault.message

/-- What a request brings. -/
abbrev ApiResult (α : Type) := Except ApiError α

namespace Envelope

/-- The data of an envelope. Any error makes the whole answer a failure, data beside it included. -/
def result (envelope : Envelope) : ApiResult Json :=
  match envelope.errors, envelope.data with
  | [], some data => .ok data
  | [], none => .error (.parse .empty)
  | messages, _ => .error (.graphQl messages)

/-- The data that the text of a response holds. -/
def read (body : String) : ApiResult Json :=
  match parse body with
  | .ok envelope => envelope.result
  | .error fault => .error (.parse (.envelope fault))

end Envelope

/-- The records that the result of a request holds. -/
def Normalized.ofResult (result : ApiResult Json) : ApiResult Normalized :=
  match result with
  | .ok data =>
      match ofJson data with
      | .ok normalized => .ok normalized
      | .error error => .error (.parse (.normalize error))
  | .error error => .error error

end RealmDesk
