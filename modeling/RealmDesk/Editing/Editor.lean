import RealmDesk.Realm.View
import RealmDesk.Saving.Dispatcher

/-!
# Editing blocks

A new block gets a pending id and stands in the list of its realm at once, so pages show it like any
other block. What the user types is kept in a form beside the store until it is saved. A form is
dirty once its values were changed, and a dirty form is not thrown away without being asked for.
-/

namespace RealmDesk

/-- Why an edit is refused. -/
inductive EditError where
  /-- There is no realm with the id. -/
  | unknownRealm (realm : RecordId)
  /-- The index lies behind the end of the list. -/
  | indexOutOfBounds (index length : Nat)
  /-- There is no block with the id, or no form of it. -/
  | unknownBlock (block : RecordId)
  /-- A command of the local update failed. -/
  | store (error : StoreError)
deriving DecidableEq, Inhabited

/-- The text of the error. -/
def EditError.message : EditError → String
  | .unknownRealm realm => "realm " ++ realm.text ++ " is not in the store"
  | .indexOutOfBounds index length =>
      "index " ++ index.repr ++ " is out of bounds for " ++ length.repr ++ " blocks"
  | .unknownBlock block => "block " ++ block.text ++ " is not in the store"
  | .store error => error.message

/-- Why a block is not sent. -/
inductive SubmitError where
  /-- Some values are refused. -/
  | invalid (errors : BlockFieldErrors)
  /-- The dispatcher refuses the block. -/
  | dispatch (error : DispatchError)
deriving DecidableEq, Inhabited

/-- The text of the error. -/
def SubmitError.message : SubmitError → String
  | .invalid errors => errors.message
  | .dispatch error => error.message

/-- What a form holds of a block that is being edited. -/
structure BlockForm where
  /-- The values as they are typed. -/
  values : BlockValues
  /-- Whether the values were changed. -/
  dirty : Bool := false
  /-- The values that were refused. -/
  errors : BlockFieldErrors := []
  /-- Why the last request failed. -/
  submitError : Option ApiError := none
  /-- The ticket of the request in flight. -/
  inFlight : Option Nat := none
deriving DecidableEq, Inhabited

/-- The form with other values; it becomes dirty if they differ. -/
def BlockForm.type (form : BlockForm) (values : BlockValues) : BlockForm :=
  if form.values = values then form else { form with values, dirty := true }

/-- What a cancelled edit comes to. -/
inductive Cancellation where
  /-- The form is dirty, and the user has to confirm. -/
  | needsConfirmation
  /-- The block was never saved and is gone. -/
  | removed
  /-- The edits are gone. -/
  | discarded
  /-- A request is in flight, and nothing was done. -/
  | inFlight
deriving DecidableEq, Inhabited

/-- The forms of blocks, and the requests that save them. -/
structure Editor where
  /-- The requests. -/
  dispatcher : Dispatcher := {}
  /-- The forms by their blocks. -/
  forms : Std.ExtTreeMap RecordId BlockForm := ∅
deriving DecidableEq

namespace Editor

instance : Inhabited Editor := ⟨{}⟩

/-- The form of a block. -/
def form? (editor : Editor) (block : RecordId) : Option BlockForm :=
  editor.forms[block]?

/-- Sets the form of a block. -/
def setForm (editor : Editor) (block : RecordId) (form : BlockForm) : Editor :=
  { editor with forms := editor.forms.insert block form }

/-- Drops the form of a block. -/
def dropForm (editor : Editor) (block : RecordId) : Editor :=
  { editor with forms := editor.forms.erase block }

/-- Whether the form of a block stays although its block may be gone: a form with a request in
flight does. -/
def keepsForm (store : Store) (block : RecordId) (form : BlockForm) : Bool :=
  form.inFlight.isSome || store.contains block

/-- Drops the forms of blocks that are gone. Returns how many were dropped. -/
def prune (editor : Editor) (store : Store) : Nat × Editor :=
  let kept := editor.forms.filter (keepsForm store)
  (editor.forms.size - kept.size, { editor with forms := kept })

/-- The record of a new block: the defaults of its kind, other values over them, and the edit mode
switched on. -/
def newRecord (kind : BlockKind) (defaults : FieldMap) : Record :=
  (Record.mk kind.typeTag (kind.defaultFields.merge defaults)).update Field.editMode
    (.scalar (.bool true))

/-- Runs commands of the store within an edit. -/
def lift {α : Type} (edit : Edit StoreError α) : Edit EditError α :=
  edit.adapt EditError.store

/-- Adds a block to the list of a realm at an index. -/
def insertEdit (realm : RecordId) (index : Nat) (record : Record) : Edit EditError RecordId := do
  match ← Edit.get? realm with
  | none => throw (.unknownRealm realm)
  | some found =>
      if found.typeTag ≠ realmType then
        throw (.unknownRealm realm)
      let blocks := found.links Field.blocks
      if blocks.length < index then
        throw (.indexOutOfBounds index blocks.length)
      let block ← Edit.allocate
      lift (Edit.create block record)
      lift (Edit.setLinks realm Field.blocks (blocks.insertIdx index block))
      return block

/-- Inserts a new block into a realm and opens its form. Blocks at the index and behind it move
one place on. -/
def insert (editor : Editor) (cache : Cache) (realm : RecordId) (index : Nat) (kind : BlockKind)
    (defaults : FieldMap) : Except EditError RecordId × Editor × Cache :=
  let record := newRecord kind defaults
  match cache.update (insertEdit realm index record) with
  | (.ok block, cache) =>
      (.ok block, editor.setForm block { values := .ofRecord kind record }, cache)
  | (.error error, cache) => (.error error, editor, cache)

/-- Sets whether a block is being edited. -/
def editModeEdit (block : RecordId) (on : Bool) : Edit StoreError Unit :=
  Edit.setField block Field.editMode (.scalar (.bool on))

/-- The editor with a form of a block, read off its record unless there is one. -/
def openForm (editor : Editor) (block : RecordId) (record : Record) : Editor :=
  match record.blockKind?, editor.form? block with
  | some kind, none => editor.setForm block { values := .ofRecord kind record }
  | _, _ => editor

/-- Switches the edit mode of a block on, which opens its form, or off, which drops it. -/
def setEditMode (editor : Editor) (cache : Cache) (block : RecordId) (on : Bool) :
    Except EditError Unit × Editor × Cache :=
  match cache.read block with
  | none => (.error (.unknownBlock block), editor, cache)
  | some record =>
      match cache.update (editModeEdit block on) with
      | (.error error, cache) => (.error (.store error), editor, cache)
      | (.ok (), cache) =>
          (.ok (), if on then editor.openForm block record else editor.dropForm block, cache)

/-- Takes over the values of a form. -/
def updateForm (editor : Editor) (block : RecordId) (values : BlockValues) :
    Except EditError Editor :=
  match editor.form? block with
  | none => .error (.unknownBlock block)
  | some form => .ok (editor.setForm block (form.type values))

/-- The form of a block with the values that are to be saved, opened if there is none. -/
def submittedForm (editor : Editor) (block : RecordId) (values : BlockValues) : BlockForm :=
  ((editor.form? block).getD { values }).type values

/-- Hands out a request that saves a block. Values that are refused, and a block that cannot be
sent, leave all but its form as it is. -/
def submit (editor : Editor) (store : Store) (block : RecordId) (values : BlockValues) :
    Except SubmitError SaveRequest × Editor :=
  let form := editor.submittedForm block values
  match values.validate with
  | .error errors => (.error (.invalid errors), editor.setForm block { form with errors })
  | .ok input =>
      let accepted := { form with errors := [] }
      match editor.dispatcher.dispatch store block input with
      | .error error => (.error (.dispatch error), editor.setForm block accepted)
      | .ok (request, dispatcher) =>
          (.ok request, { editor with dispatcher }.setForm block
            { accepted with submitError := none, inFlight := some request.ticket })

/-- The form of a block whose request failed. -/
def failForm (editor : Editor) (block : RecordId) (error : ApiError) : Editor :=
  match editor.form? block with
  | none => editor
  | some form => editor.setForm block { form with inFlight := none, submitError := some error }

/-- Hands in the result of a request. A saved block leaves its edit mode and loses its form. -/
def complete (editor : Editor) (cache : Cache) (ticket : Nat) (result : ApiResult Json) :
    Except DispatchError (SaveOutcome × Editor × Cache) :=
  match editor.dispatcher.complete cache ticket result with
  | .error error => .error error
  | .ok (outcome, dispatcher, cache) =>
      let editor := { editor with dispatcher }
      match outcome with
      | .saved previous block =>
          .ok (outcome, (editor.dropForm previous).dropForm block,
            (cache.update (editModeEdit block false)).2)
      | .failed block error => .ok (outcome, editor.failForm block error, cache)

/-- Takes a block out of the lists of some realms and deletes it. -/
def removeEdit (block : RecordId) : List RecordId → Edit StoreError Unit
  | [] => do
      let _ ← Edit.delete block
  | realm :: realms => do
      let blocks ← Edit.links realm Field.blocks
      Edit.setLinks realm Field.blocks (blocks.filter (· != block))
      removeEdit block realms

/-- Ends the edit of a block. A block that was never saved is removed. -/
def cancel (editor : Editor) (cache : Cache) (block : RecordId) (confirmed : Bool) :
    Except EditError Cancellation × Editor × Cache :=
  if editor.dispatcher.isInFlight block then (.ok .inFlight, editor, cache)
  else if !cache.store.contains block then (.error (.unknownBlock block), editor, cache)
  else if (editor.form? block).any (·.dirty) && !confirmed then
    (.ok .needsConfirmation, editor, cache)
  else if block.isPending then
    let realms := cache.store.referrers block Field.blocks
    match cache.update (removeEdit block realms) with
    | (.error error, cache) => (.error (.store error), editor, cache)
    | (.ok (), cache) => (.ok .removed, editor.dropForm block, cache)
  else
    match editor.setEditMode cache block false with
    | (.error error, editor, cache) => (.error error, editor, cache)
    | (.ok (), editor, cache) => (.ok .discarded, editor, cache)

end Editor

end RealmDesk
