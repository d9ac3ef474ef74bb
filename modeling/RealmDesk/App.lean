import RealmDesk.Client
import RealmDesk.Editing.Editor
import RealmDesk.Logout
import RealmDesk.Visit.Navigator

/-!
# The application

The application is what the user works with: every control calls one of its operations. Requests
are not sent at once. They wait among the outstanding tasks until the network answers, so that all
that was done in the meantime comes first, and `settle` then takes them up in their order.
-/

namespace RealmDesk

/-- A request whose answer is awaited. -/
inductive Task where
  /-- The data of a place. -/
  | load (fetch : Fetch)
  /-- The values of a block. -/
  | save (request : SaveRequest)
  /-- The end of the session. -/
  | endSession
deriving DecidableEq, Inhabited

/-- The state of the application. -/
structure App where
  /-- How the server is reached. -/
  config : Config
  /-- The records. -/
  cache : Cache := {}
  /-- The navigation. -/
  navigator : Navigator := { table := .standard }
  /-- The editor of blocks. -/
  editor : Editor := {}
  /-- The logout control. -/
  logout : Logout := .idle
  /-- How often the forms were touched. -/
  formsVersion : Nat := 0
  /-- The requests whose answers are awaited, oldest first. -/
  outstanding : List Task := []
deriving DecidableEq, Inhabited

namespace App

/-- What the page shows of the navigation. -/
def status (app : App) : Status :=
  app.navigator.status

/-- Marks the forms as touched. -/
def touchForms (app : App) : App :=
  { app with formsVersion := app.formsVersion + 1 }

/-- Adds a task. -/
def await (app : App) (task : Task) : App :=
  { app with outstanding := app.outstanding ++ [task] }

/-- Drops the forms of blocks that the navigation made disappear. -/
def pruneForms (app : App) : App :=
  let (dropped, editor) := app.editor.prune app.cache.store
  let pruned := { app with editor }
  if dropped = 0 then pruned else pruned.touchForms

/-- Takes over a move of the navigator, and awaits what has to be fetched for it. -/
def move (app : App) (moved : Option Fetch × Navigator × Cache) : App :=
  let (fetch, navigator, cache) := moved
  let pruned := { app with navigator, cache }.pruneForms
  match fetch with
  | none => pruned
  | some fetch => pruned.await (.load fetch)

/-- Navigates to a URL. -/
def navigate (app : App) (url : Url) : App :=
  app.move (app.navigator.navigate app.cache url)

/-- Navigates to the current URL again. -/
def reload (app : App) : App :=
  app.move (app.navigator.reload app.cache)

/-- Inserts a new block into a realm, if that is possible. -/
def insert (app : App) (realm : RecordId) (index : Nat) (kind : BlockKind) : App :=
  let (_, editor, cache) := app.editor.insert app.cache realm index kind ∅
  { app with editor, cache }.touchForms

/-- Switches the edit mode of a block, if there is such a block. -/
def setEditMode (app : App) (block : RecordId) (on : Bool) : App :=
  let (_, editor, cache) := app.editor.setEditMode app.cache block on
  { app with editor, cache }.touchForms

/-- Takes over the values of a form, if there is one. -/
def updateForm (app : App) (block : RecordId) (values : BlockValues) : App :=
  match app.editor.updateForm block values with
  | .ok editor => { app with editor }.touchForms
  | .error _ => app.touchForms

/-- Sends a block to the server. Values that are refused are marked on its form. -/
def submit (app : App) (block : RecordId) (values : BlockValues) : App :=
  let (result, editor) := app.editor.submit app.cache.store block values
  let submitted := { app with editor }.touchForms
  match result with
  | .ok request => submitted.await (.save request)
  | .error _ => submitted

/-- Cancels the edit of a block. Where the editor wants a confirmation the user is asked, and
`confirms` is the answer. -/
def cancel (app : App) (block : RecordId) (confirms : Bool) : App :=
  match app.editor.cancel app.cache block false with
  | (.ok .needsConfirmation, _, _) =>
      if confirms then
        let (_, editor, cache) := app.editor.cancel app.cache block true
        { app with editor, cache }.touchForms
      else app
  | (_, editor, cache) => { app with editor, cache }.touchForms

/-- Logs out; a click while a logout is running is ignored. -/
def logOut (app : App) : App :=
  let (started, logout) := app.logout.start
  if started then { app with logout }.await .endSession else app

/-- Hands in the answer to a task. -/
def finish (app : App) (network : Network) : Task → App
  | .load fetch =>
      let result := Client.execute app.config network fetch.operation
      let (_, navigator, cache) := app.navigator.resolve app.cache fetch.generation result
      { app with navigator, cache }.pruneForms
  | .save request =>
      let result := Client.execute app.config network request.mutation.operation
      match app.editor.complete app.cache request.ticket result with
      | .ok (_, editor, cache) => { app with editor, cache }.touchForms
      | .error _ => app.touchForms
  | .endSession =>
      { app with logout := (Logout.finish (Client.deleteSession app.config network)).2 }

/-- Hands in the answers to all outstanding tasks, in their order. -/
def settle (app : App) (network : Network) : App :=
  app.outstanding.foldl (fun app task => app.finish network task) { app with outstanding := [] }

/-- Starts to watch a record. Returns the number of the watch. -/
def watch (app : App) (record : RecordId) : Nat × App :=
  let (number, cache) := app.cache.subscribe record .all
  (number, { app with cache })

/-- Ends a watch. -/
def unwatch (app : App) (number : Nat) : App :=
  { app with cache := (app.cache.unsubscribe number).2 }

/-- How often a watch has seen its record change. -/
def ticks (app : App) (number : Nat) : Nat :=
  (app.cache.journal.flatMap Publication.notices).countP (·.subscription == number)

end App

end RealmDesk
