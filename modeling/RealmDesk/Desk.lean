import RealmDesk.Editing.Editor
import RealmDesk.Saving.ChildRealm
import RealmDesk.Store.Script
import RealmDesk.Visit.Navigator

/-!
# The desk

The desk ties the parts together: navigation, the editor, and a dispatcher of its own share one
cache. Whatever happens at the desk is an event, and a run of the desk is a list of events. What
the server answers is part of the event that hands the answer in.
-/

namespace RealmDesk

/-- The parts of the desk. -/
structure Desk where
  /-- The records they share. -/
  cache : Cache := {}
  /-- The navigation. -/
  navigator : Navigator
  /-- The editor of blocks. -/
  editor : Editor := {}
  /-- Requests that are made without the editor. -/
  dispatcher : Dispatcher := {}
deriving DecidableEq, Inhabited

namespace Desk

/-- Something that happens at the desk. -/
inductive Event where
  /-- A URL is navigated to. -/
  | navigate (url : Url)
  /-- The current URL is navigated to again. -/
  | reload
  /-- The result of a fetch arrives. -/
  | resolve (generation : Nat) (result : ApiResult Json)
  /-- A new block is inserted. -/
  | insert (realm : RecordId) (index : Nat) (kind : BlockKind) (defaults : FieldMap)
  /-- The edit mode of a block is switched. -/
  | setEditMode (block : RecordId) (on : Bool)
  /-- The values of a form change. -/
  | updateForm (block : RecordId) (values : BlockValues)
  /-- A form is submitted. -/
  | submit (block : RecordId) (values : BlockValues)
  /-- The result of a submitted form arrives. -/
  | complete (ticket : Nat) (result : ApiResult Json)
  /-- An edit is cancelled. -/
  | cancel (block : RecordId) (confirmed : Bool)
  /-- Forms of blocks that are gone are dropped. -/
  | prune
  /-- A block is sent without the editor. -/
  | dispatch (block : RecordId) (input : BlockInput)
  /-- The result of a request arrives that was made without the editor. -/
  | finish (ticket : Nat) (result : ApiResult Json)
  /-- The result of the creation of a child realm arrives. -/
  | addChild (result : ApiResult Json)
  /-- A snapshot is merged. -/
  | merge (snapshot : Snapshot)
  /-- A script of commands is run. -/
  | update (script : Script)
  /-- A subscription is added. -/
  | subscribe (record : RecordId) (selection : FieldSelection)
  /-- A subscription is ended. -/
  | unsubscribe (number : Nat)
  /-- Roots are retained. -/
  | retain (roots : List RecordId)
  /-- Retained roots are given up. -/
  | release (token : Nat)
  /-- Garbage is collected. -/
  | collectGarbage
deriving Inhabited

/-- What an event comes to. -/
inductive Outcome where
  /-- What has to be fetched, if anything. -/
  | fetch (fetch : Option Fetch)
  /-- What became of the result of a fetch. -/
  | resolved (resolution : Resolution)
  /-- The new block, or why there is none. -/
  | inserted (result : Except EditError RecordId)
  /-- Whether the edit was carried out. -/
  | edited (result : Except EditError Unit)
  /-- The request for a submitted form. -/
  | submitted (result : Except SubmitError SaveRequest)
  /-- What became of a request. -/
  | completed (result : Except DispatchError SaveOutcome)
  /-- What the cancelled edit came to. -/
  | cancelled (result : Except EditError Cancellation)
  /-- How many forms were dropped. -/
  | pruned (count : Nat)
  /-- The request for a block. -/
  | dispatched (result : Except DispatchError SaveRequest)
  /-- The path of the new child realm. -/
  | childAdded (result : ApiResult String)
  /-- The snapshot was merged. -/
  | merged
  /-- The replies of a script; an update that failed was undone. -/
  | updated (result : Except (List Reply) (List Reply))
  /-- The number of a subscription or a token. -/
  | numbered (number : Nat)
  /-- Whether there was something to give up. -/
  | ended (present : Bool)
  /-- The evicted records. -/
  | evicted (ids : List RecordId)

/-- Lets an event happen. -/
def step (desk : Desk) : Event → Outcome × Desk
  | .navigate url =>
      let (fetch, navigator, cache) := desk.navigator.navigate desk.cache url
      (.fetch fetch, { desk with navigator, cache })
  | .reload =>
      let (fetch, navigator, cache) := desk.navigator.reload desk.cache
      (.fetch fetch, { desk with navigator, cache })
  | .resolve generation result =>
      let (resolution, navigator, cache) := desk.navigator.resolve desk.cache generation result
      (.resolved resolution, { desk with navigator, cache })
  | .insert realm index kind defaults =>
      let (result, editor, cache) := desk.editor.insert desk.cache realm index kind defaults
      (.inserted result, { desk with editor, cache })
  | .setEditMode block on =>
      let (result, editor, cache) := desk.editor.setEditMode desk.cache block on
      (.edited result, { desk with editor, cache })
  | .updateForm block values =>
      match desk.editor.updateForm block values with
      | .ok editor => (.edited (.ok ()), { desk with editor })
      | .error error => (.edited (.error error), desk)
  | .submit block values =>
      let (result, editor) := desk.editor.submit desk.cache.store block values
      (.submitted result, { desk with editor })
  | .complete ticket result =>
      match desk.editor.complete desk.cache ticket result with
      | .ok (outcome, editor, cache) => (.completed (.ok outcome), { desk with editor, cache })
      | .error error => (.completed (.error error), desk)
  | .cancel block confirmed =>
      let (result, editor, cache) := desk.editor.cancel desk.cache block confirmed
      (.cancelled result, { desk with editor, cache })
  | .prune =>
      let (count, editor) := desk.editor.prune desk.cache.store
      (.pruned count, { desk with editor })
  | .dispatch block input =>
      match desk.dispatcher.dispatch desk.cache.store block input with
      | .ok (request, dispatcher) => (.dispatched (.ok request), { desk with dispatcher })
      | .error error => (.dispatched (.error error), desk)
  | .finish ticket result =>
      match desk.dispatcher.complete desk.cache ticket result with
      | .ok (outcome, dispatcher, cache) =>
          (.completed (.ok outcome), { desk with dispatcher, cache })
      | .error error => (.completed (.error error), desk)
  | .addChild result =>
      let (path, cache) := ChildRealm.receive desk.cache result
      (.childAdded path, { desk with cache })
  | .merge snapshot => (.merged, { desk with cache := desk.cache.applySnapshot snapshot })
  | .update script =>
      let (result, cache) := desk.cache.update script.run
      (.updated result, { desk with cache })
  | .subscribe record selection =>
      let (number, cache) := desk.cache.subscribe record selection
      (.numbered number, { desk with cache })
  | .unsubscribe number =>
      let (ended, cache) := desk.cache.unsubscribe number
      (.ended ended, { desk with cache })
  | .retain roots =>
      let (token, cache) := desk.cache.retain roots
      (.numbered token, { desk with cache })
  | .release token =>
      let (held, cache) := desk.cache.release token
      (.ended held, { desk with cache })
  | .collectGarbage =>
      let (evicted, cache) := desk.cache.collectGarbage
      (.evicted evicted, { desk with cache })

/-- The desk after a run of events. -/
def run (desk : Desk) (events : List Event) : Desk :=
  events.foldl (fun desk event => (desk.step event).2) desk

/-- A desk at which nothing has happened. -/
def start (table : RouteTable) : Desk :=
  { navigator := { table } }

end Desk

end RealmDesk
