import RealmDesk.Answer.Error
import RealmDesk.Operation
import RealmDesk.Store.Cache

/-!
# Saving blocks

A block that was never saved is created on the server, any other block is updated. A block has at
most one request in flight. The server knows the saved blocks of a realm only, so a new block is
sent with its position among those. When the answer to a creation arrives, the id of the server
takes the slot that the pending id occupies by then: the order of blocks here wins over the order
in the answer.
-/

namespace RealmDesk

/-- Why a block cannot be sent, or an answer has no request. -/
inductive DispatchError where
  /-- The block has a request in flight. -/
  | alreadyInFlight (block : RecordId)
  /-- The block is not in the store. -/
  | unknownBlock (block : RecordId)
  /-- No realm lists the new block. -/
  | orphaned (block : RecordId)
  /-- The realm that lists the new block was never saved. -/
  | unsavedRealm (realm : RecordId)
  /-- No request is in flight for the ticket. -/
  | unknownTicket
deriving DecidableEq, Inhabited

/-- The text of the error. -/
def DispatchError.message : DispatchError → String
  | .alreadyInFlight block => "block " ++ block.text ++ " already has a request in flight"
  | .unknownBlock block => "block " ++ block.text ++ " does not exist"
  | .orphaned block => "pending block " ++ block.text ++ " does not belong to a realm"
  | .unsavedRealm realm => "realm " ++ realm.text ++ " has not been saved yet"
  | .unknownTicket => "no request in flight for this ticket"

/-- What is asked of the server; both name records by the ids the server gave. -/
inductive Mutation where
  /-- Creates a block at an index of a realm. -/
  | create (realm : String) (index : Nat) (input : BlockInput)
  /-- Updates a block. -/
  | update (block : String) (input : BlockInput)
deriving DecidableEq, Inhabited

/-- The operation that asks for a mutation. -/
def Mutation.operation : Mutation → Operation
  | .create realm index input => .createBlock realm index input
  | .update block input => .updateBlock block input

/-- A request that was handed out. -/
structure SaveRequest where
  /-- The number under which its answer is handed in. -/
  ticket : Nat
  /-- The block that is saved. -/
  block : RecordId
  /-- What is asked of the server. -/
  mutation : Mutation
deriving DecidableEq, Inhabited

/-- What became of a request. -/
inductive SaveOutcome where
  /-- The block is saved, and has the second id from now on. -/
  | saved (previous block : RecordId)
  /-- The block was not saved. -/
  | failed (block : RecordId) (error : ApiError)
deriving DecidableEq, Inhabited

/-- The requests in flight. -/
structure Dispatcher where
  /-- The requests by their tickets. -/
  inFlight : Std.ExtTreeMap Nat SaveRequest := ∅
  /-- The ticket that was given out last. -/
  lastTicket : Nat := 0
deriving DecidableEq

namespace Dispatcher

instance : Inhabited Dispatcher := ⟨{}⟩

/-- Whether a block has a request in flight. -/
def isInFlight (dispatcher : Dispatcher) (block : RecordId) : Bool :=
  dispatcher.inFlight.values.any (·.block == block)

/-- The realm that lists a new block, and the position of the block among the saved blocks of that
realm. -/
def position (store : Store) (block : RecordId) : Except DispatchError (RecordId × Nat) :=
  let found? := do
    let realm ← (store.referrers block Field.blocks).head?
    let blocks ← (← store.read realm).links? Field.blocks
    let slot ← blocks.idxOf? block
    return (realm, ((blocks.take slot).filter (!·.isPending)).length)
  match found? with
  | some found => .ok found
  | none => .error (.orphaned block)

/-- What has to be asked of the server to save a block. -/
def mutationFor (store : Store) (block : RecordId) (input : BlockInput) :
    Except DispatchError Mutation :=
  match block with
  | .persisted id => .ok (.update id input)
  | .pending _ =>
      match position store block with
      | .error error => .error error
      | .ok (.pending number, _) => .error (.unsavedRealm (.pending number))
      | .ok (.persisted realm, index) => .ok (.create realm index input)

/-- Hands out a request that saves a block. -/
def dispatch (dispatcher : Dispatcher) (store : Store) (block : RecordId) (input : BlockInput) :
    Except DispatchError (SaveRequest × Dispatcher) :=
  if dispatcher.isInFlight block then .error (.alreadyInFlight block)
  else if !store.contains block then .error (.unknownBlock block)
  else
    match mutationFor store block input with
    | .error error => .error error
    | .ok mutation =>
        let request : SaveRequest := ⟨dispatcher.lastTicket + 1, block, mutation⟩
        .ok (request, {
          inFlight := dispatcher.inFlight.insert request.ticket request
          lastTicket := request.ticket })

/-- The id that an answer gives to the block created at an index. -/
def createdBlock? (normalized : Normalized) (field : String) (index : Nat) : Option RecordId := do
  let (_, record) ← normalized.linked? field
  (← record.links? Field.blocks)[index]?

/-- Puts the id of the server into the slot of a pending id, forgets the pending record, and merges
what else the answer brings. -/
def reconcile (pending saved realm : RecordId) (snapshot : Snapshot) : Edit StoreError Unit := do
  let blocks ← Edit.links realm Field.blocks
  Edit.setLinks realm Field.blocks (blocks.replace pending saved)
  let _ ← Edit.delete pending
  Edit.mergeSnapshot (snapshot.withoutField realm Field.blocks)

/-- Folds the answer to a mutation into the store. Returns the id the block has from then on. -/
def apply (cache : Cache) (request : SaveRequest) (normalized : Normalized) :
    ApiResult RecordId × Cache :=
  match request.mutation with
  | .update .. => (.ok request.block, cache.applySnapshot normalized.snapshot)
  | .create realm index input =>
      let field := Operation.createBlockField input.kind
      match createdBlock? normalized field index with
      | none => (.error (.parse (.noBlock field index)), cache)
      | some saved =>
          let (result, cache) := cache.update
            (reconcile request.block saved (.persisted realm) normalized.snapshot)
          match result with
          | .ok () => (.ok saved, cache)
          | .error error => (.error (.parse (.store error)), cache)

/-- Folds the result of a request into the store. -/
def finish (cache : Cache) (request : SaveRequest) (result : ApiResult Json) :
    SaveOutcome × Cache :=
  match Normalized.ofResult result with
  | .error error => (.failed request.block error, cache)
  | .ok normalized =>
      match apply cache request normalized with
      | (.ok saved, cache) => (.saved request.block saved, cache)
      | (.error error, cache) => (.failed request.block error, cache)

/-- Hands in the result of the request with a ticket. -/
def complete (dispatcher : Dispatcher) (cache : Cache) (ticket : Nat) (result : ApiResult Json) :
    Except DispatchError (SaveOutcome × Dispatcher × Cache) :=
  match dispatcher.inFlight[ticket]? with
  | none => .error .unknownTicket
  | some request =>
      let (outcome, cache) := finish cache request result
      .ok (outcome, { dispatcher with inFlight := dispatcher.inFlight.erase ticket }, cache)

end Dispatcher

end RealmDesk
