import RealmDesk.Record.Basic

/-!
# Commits

A commit tells which records an update changed and which subscriptions are due to hear of it. A
record that was created, deleted or given another type changed as a whole; any other change is the
list of the fields whose values differ. Zero and negative zero do not differ.
-/

namespace RealmDesk

/-- How a record changed. -/
inductive RecordChange where
  /-- It was created, deleted or given another type. -/
  | whole
  /-- Some of its fields changed; their names are in ascending order. -/
  | fields (names : List String)
deriving DecidableEq, Inhabited

namespace RecordChange

/-- Whether a field has the same value in two records, or is in neither. -/
def agreesOn (before after : Record) (field : String) : Bool :=
  (before.get? field).map FieldValue.unsignedZeros ==
    (after.get? field).map FieldValue.unsignedZeros

/-- The names of the fields in which two records differ. -/
def differing (before after : Record) : List String :=
  (before.fields.merge after.fields).keys.filter fun field => !agreesOn before after field

/-- How a record changed that was there before and after, if it did. -/
def between? (before after : Record) : Option RecordChange :=
  if before.typeTag ≠ after.typeTag then some .whole
  else match differing before after with
    | [] => none
    | names => some (.fields names)

/-- How the record with an id changed, if it did. -/
def of? : Option Record → Option Record → Option RecordChange
  | none, none => none
  | some before, some after => between? before after
  | _, _ => some .whole

end RecordChange

/-- The fields of a record that a subscription is about. -/
inductive FieldSelection where
  /-- Every field. -/
  | all
  /-- The named fields. -/
  | only (names : List String)
deriving DecidableEq, Inhabited

/-- Whether a change matters to a selection of fields. -/
def RecordChange.touches : RecordChange → FieldSelection → Bool
  | .whole, _ | _, .all => true
  | .fields changed, .only wanted => changed.any wanted.contains

/-- A subscription to a record. -/
structure Subscription where
  /-- The record. -/
  record : RecordId
  /-- The fields of it that matter. -/
  selection : FieldSelection
deriving DecidableEq, Inhabited

/-- A subscription that has to hear of a commit. -/
structure Due where
  /-- The number of the subscription. -/
  subscription : Nat
  /-- The record it is about. -/
  record : RecordId
deriving DecidableEq, Inhabited

/-- What an update changed, and who has to hear of it. -/
structure Commit where
  /-- The changed records. -/
  changes : Std.ExtTreeMap RecordId RecordChange
  /-- The subscriptions that are due, in the order of their numbers. -/
  due : List Due
deriving DecidableEq

namespace Commit

/-- The commit of an update that changed nothing. -/
def empty : Commit := ⟨∅, []⟩

instance : Inhabited Commit := ⟨empty⟩

/-- Whether nothing changed. -/
def isEmpty (commit : Commit) : Bool :=
  commit.changes.isEmpty

/-- The commit of some changes among subscriptions. -/
def of (changes : Std.ExtTreeMap RecordId RecordChange)
    (subscriptions : Std.ExtTreeMap Nat Subscription) : Commit where
  changes := changes
  due := subscriptions.toList.filterMap fun (number, subscription) =>
    match changes[subscription.record]? with
    | some change =>
        if change.touches subscription.selection then some ⟨number, subscription.record⟩ else none
    | none => none

end Commit

end RealmDesk
