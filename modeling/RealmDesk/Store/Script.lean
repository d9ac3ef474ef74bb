import RealmDesk.Store.Basic

/-!
# Scripts of local updates

A script is a list of commands that run one after the other within one local update. A command that
fails ends the update and undoes it, unless its failure is tolerated. Every command that ran has a
reply, the one that ended the update included.
-/

namespace RealmDesk

/-- A command of a local update. -/
inductive Command where
  /-- Gives out a pending id. -/
  | allocate
  /-- Adds a record. -/
  | create (id : RecordId) (record : Record)
  /-- Sets a field. -/
  | setField (id : RecordId) (field : String) (value : FieldValue)
  /-- Reads the links of a field. -/
  | links (id : RecordId) (field : String)
  /-- Sets a field to a list of links. -/
  | setLinks (id : RecordId) (field : String) (targets : List RecordId)
  /-- Deletes a record. -/
  | delete (id : RecordId)
  /-- Merges an incoming record. -/
  | merge (id : RecordId) (record : Record)
  /-- Merges a snapshot. -/
  | mergeSnapshot (snapshot : Snapshot)
  /-- Reads a record. -/
  | get (id : RecordId)
deriving DecidableEq, Inhabited

/-- What a command replies. -/
inductive Reply where
  /-- It was carried out. -/
  | done
  /-- The id that was given out. -/
  | allocated (id : RecordId)
  /-- The links of the field. -/
  | links (targets : List RecordId)
  /-- Whether there was a record to delete. -/
  | deleted (present : Bool)
  /-- The record, if there is one. -/
  | record (found : Option Record)
  /-- Why it failed. -/
  | failed (error : StoreError)
deriving DecidableEq, Inhabited

/-- Carries out a command. -/
def Command.run : Command → Edit StoreError Reply
  | .allocate => return .allocated (← Edit.allocate)
  | .create id record => do Edit.create id record; return .done
  | .setField id field value => do Edit.setField id field value; return .done
  | .links id field => return .links (← Edit.links id field)
  | .setLinks id field targets => do Edit.setLinks id field targets; return .done
  | .delete id => return .deleted (← Edit.delete id)
  | .merge id record => do Edit.merge id record; return .done
  | .mergeSnapshot snapshot => do Edit.mergeSnapshot snapshot; return .done
  | .get id => return .record (← Edit.get? id)

/-- A step of a script. -/
inductive Script.Step where
  /-- Carries out a command, whose failure may be tolerated. -/
  | command (command : Command) (tolerated : Bool)
  /-- Ends the update and undoes it. -/
  | abort
deriving DecidableEq, Inhabited

/-- Steps that run within one local update. -/
abbrev Script := List Script.Step

/-- Runs a script after others steps, whose replies are given. An update that is undone fails with
the replies of the commands that ran. -/
def Script.runAfter (replies : List Reply) : Script → Edit (List Reply) (List Reply)
  | [] => return replies
  | .abort :: _ => throw replies
  | .command command tolerated :: steps => fun draft =>
      match command.run draft with
      | (.ok reply, draft) => runAfter (replies ++ [reply]) steps draft
      | (.error error, draft) =>
          let replies := replies ++ [.failed error]
          if tolerated then runAfter replies steps draft else (.error replies, draft)

/-- Runs a script. -/
def Script.run (script : Script) : Edit (List Reply) (List Reply) :=
  script.runAfter []

end RealmDesk
