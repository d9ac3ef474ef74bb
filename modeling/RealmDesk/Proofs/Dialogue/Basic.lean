import RealmDesk.Proofs.Desk.Solitary

/-!
# The desk and the server

The server holds one list of block ids for a realm. It handles a request that creates a block by
inserting a fresh id at the index of the request, and answers with the whole list as it is right
after that. It answers the fetch of a page with the list as it is when it reads it. Requests may be
handled in any order and answers may arrive in any order, so the acts of a run are any list. An act
that is not possible at its moment does nothing.
-/

namespace RealmDesk

/-- A request that the server has handled. -/
structure Handling where
  /-- The request. -/
  request : SaveRequest
  /-- The id of the new block. -/
  id : String
  /-- The whole list right after the insertion. -/
  list : List String
deriving DecidableEq, Inhabited

/-- A desk, and the server as far as the blocks of one realm are concerned. -/
structure Dialogue where
  /-- The desk. -/
  desk : Desk
  /-- The blocks of the realm on the server. -/
  served : List String
  /-- The requests that were handled, latest first. -/
  handled : List Handling := []
  /-- The lists that were read on behalf of fetches, by their generations, latest first. -/
  readings : List (Nat × List String) := []
  /-- The list that the page was loaded with last, with the ticket that was the latest then. -/
  loaded : Option (Nat × List String) := none

namespace Normalized

/-- The blocks that an answer lists for a realm that a root field links to. -/
def listed? (data : Json) (field realm : String) : Option (List RecordId) :=
  match ofJson data with
  | .error _ => none
  | .ok normalized =>
      match normalized.linked? field with
      | some (.persisted id, record) => if id = realm then record.links? Field.blocks else none
      | _ => none

/-- Whether an answer has a record of a realm. -/
def mentions (data : Json) (realm : String) : Bool :=
  match ofJson data with
  | .error _ => false
  | .ok normalized => decide (.persisted realm ∈ normalized.snapshot.entries.map Prod.fst)

theorem listed?_eq_some {data : Json} {field realm : String} {ids : List RecordId} :
    listed? data field realm = some ids ↔
      ∃ normalized record, ofResult (.ok data) = .ok normalized ∧
        normalized.linked? field = some (.persisted realm, record) ∧
        record.links? Field.blocks = some ids := by
  simp only [ofResult_ok]
  rw [listed?]
  cases ofJson data with
  | error error => simp
  | ok normalized =>
      cases found : normalized.linked? field with
      | none => simp [found]
      | some entry =>
          obtain ⟨id, record⟩ := entry
          cases id with
          | pending number => simp [found]
          | persisted text =>
              by_cases same : text = realm <;> simp [found, same]

theorem not_mem_of_mentions {data : Json} {realm : String} {normalized : Normalized}
    (mentions : mentions data realm = false) (read : ofResult (.ok data) = .ok normalized) :
    .persisted realm ∉ normalized.snapshot.entries.map Prod.fst := by
  rw [Normalized.mentions, ofResult_ok.mp read] at mentions
  exact of_decide_eq_false mentions

end Normalized

namespace Dialogue

/-- Something that happens between the desk and the server. -/
inductive Act where
  /-- Something happens at the desk alone. -/
  | alone (event : Desk.Event)
  /-- The server handles a request and gives an id to the new block. -/
  | serve (ticket : Nat) (id : String)
  /-- The answer to a request arrives. -/
  | answer (ticket : Nat) (data : Json)
  /-- The server reads the list on behalf of a fetch. -/
  | read (generation : Nat)
  /-- The answer to a fetch arrives; a root field links to the realm. -/
  | load (generation : Nat) (field : String) (data : Json)
deriving Inhabited

/-- The request of the editor with a ticket, while it is in flight. -/
def request? (world : Dialogue) (ticket : Nat) : Option SaveRequest :=
  world.desk.editor.dispatcher.inFlight[ticket]?

/-- What the server made of a request, if it has handled it. -/
def handling? (world : Dialogue) (request : SaveRequest) : Option Handling :=
  world.handled.find? (·.request = request)

/-- The index at which a request creates a block in a realm. -/
def indexIn? (realm : String) (request : SaveRequest) : Option Nat :=
  match request.mutation with
  | .create target index _ => if target = realm then some index else none
  | .update _ _ => none

/-- The field of the answer to a request, as far as it has one. -/
def answerField (request : SaveRequest) : String :=
  match request.mutation with
  | .create _ _ input => Operation.createBlockField input.kind
  | .update _ input => Operation.updateBlockField input.kind

/-- The server handles a request for the realm that it has not handled before. -/
def serve? (realm : String) (world : Dialogue) (ticket : Nat) (id : String) : Option Dialogue := do
  let request ← world.request? ticket
  let index ← indexIn? realm request
  if (world.handling? request).isNone ∧ id ∉ world.served ∧ index ≤ world.served.length then
    let list := world.served.insertIdx index id
    return { world with served := list, handled := ⟨request, id, list⟩ :: world.handled }
  else none

/-- Whether an answer may be the answer to a request: it lists what the server had right after the
insertion, or it is about another realm or an update and does not mention the realm. -/
def Answers (realm : String) (world : Dialogue) (request : SaveRequest) (data : Json) : Prop :=
  if (indexIn? realm request).isSome then
    ∃ handling ∈ world.handling? request,
      Normalized.listed? data (answerField request) realm =
        some (handling.list.map RecordId.persisted)
  else Normalized.mentions data realm = false

instance (realm : String) (world : Dialogue) (request : SaveRequest) (data : Json) :
    Decidable (Answers realm world request data) :=
  inferInstanceAs (Decidable (ite _ _ _))

/-- The answer to a request arrives. -/
def answer? (realm : String) (world : Dialogue) (ticket : Nat) (data : Json) : Option Dialogue := do
  let request ← world.request? ticket
  if Answers realm world request data then
    return { world with desk := (world.desk.step (.complete ticket (.ok data))).2 }
  else none

/-- What the desk makes of the answer to a request. -/
def outcome? (world : Dialogue) (ticket : Nat) (data : Json) : Option SaveOutcome :=
  match (world.desk.step (.complete ticket (.ok data))).1 with
  | .completed (.ok outcome) => some outcome
  | _ => none

/-- The server reads the list on behalf of a fetch that was made. -/
def read? (world : Dialogue) (generation : Nat) : Option Dialogue :=
  if generation ≤ world.desk.navigator.generation then
    some { world with readings := (generation, world.served) :: world.readings }
  else none

/-- What the page was loaded with last, once the answer to a fetch has come to something. -/
def loadedAfter (world : Dialogue) (list : List String) : Desk.Outcome → Option (Nat × List String)
  | .resolved .applied => some (world.desk.editor.dispatcher.lastTicket, list)
  | _ => world.loaded

/-- The answer to a fetch arrives, with the list as it was read. -/
def load? (realm : String) (world : Dialogue) (generation : Nat) (field : String) (data : Json) :
    Option Dialogue := do
  let list ← world.readings.lookup generation
  if Normalized.listed? data field realm = some (list.map RecordId.persisted) then
    let (outcome, desk) := world.desk.step (.resolve generation (.ok data))
    return { world with desk, loaded := world.loadedAfter list outcome }
  else none

/-- Lets an act happen, if it is possible. -/
def act? (realm : String) (world : Dialogue) : Act → Option Dialogue
  | .alone event =>
      if event.Solitary then some { world with desk := (world.desk.step event).2 } else none
  | .serve ticket id => world.serve? realm ticket id
  | .answer ticket data => world.answer? realm ticket data
  | .read generation => world.read? generation
  | .load generation field data => world.load? realm generation field data

/-- What an act makes of desk and server. -/
def step (realm : String) (world : Dialogue) (act : Act) : Dialogue :=
  (world.act? realm act).getD world

/-- Desk and server after a run of acts. -/
def run (realm : String) (world : Dialogue) (acts : List Act) : Dialogue :=
  acts.foldl (step realm) world

/-- A desk and a server that have not dealt with each other. -/
def start (desk : Desk) (served : List String) : Dialogue := { desk, served }

/-- The blocks of the realm at the desk. -/
def blocks (realm : String) (world : Dialogue) : List RecordId :=
  world.desk.view.blocks (.persisted realm)

end Dialogue

end RealmDesk
