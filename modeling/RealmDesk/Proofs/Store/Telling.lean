import Mathlib.Data.String.Basic
import RealmDesk.Proofs.Store.Landing

/-!
# What a commit tells

A commit is read off the records before and after an update. Whatever was written in between, and
however often, it names exactly the records that are different in the end, and of a record that kept
its type exactly the fields that are. Zero and negative zero are not different.
-/

namespace RealmDesk

/-- A field has different values in two records, or is in one of them only. -/
def Record.DifferIn (before after : Record) (field : String) : Prop :=
  (before.get? field).map FieldValue.unsignedZeros ≠ (after.get? field).map FieldValue.unsignedZeros

namespace RecordChange

/-- What a change tells of a record before and after it. -/
inductive Tells : Option Record → Option Record → RecordChange → Prop where
  | created {after : Record} : Tells none (some after) .whole
  | deleted {before : Record} : Tells (some before) none .whole
  | retyped {before after : Record} (different : before.typeTag ≠ after.typeTag) :
      Tells (some before) (some after) .whole
  /-- The type is the same, and the named fields are those that differ. -/
  | changed {before after : Record} {names : List String}
      (tags : before.typeTag = after.typeTag) (any : names ≠ [])
      (ascending : names.Pairwise (· < ·))
      (named : ∀ field, field ∈ names ↔ before.DifferIn after field) :
      Tells (some before) (some after) (.fields names)

section Fields

variable {before after : Record}

theorem mem_differing_iff {field : String} :
    field ∈ differing before after ↔ before.DifferIn after field := by
  rw [mem_differing, agreesOn, beq_eq_false_iff_ne, Record.DifferIn]

theorem ascending_differing (before after : Record) :
    (differing before after).Pairwise (· < ·) :=
  (Std.ExtTreeMap.ordered_keys.imp compare_lt_iff_lt.mp).filter _

theorem eq_differing {names : List String} (ascending : names.Pairwise (· < ·))
    (named : ∀ field, field ∈ names ↔ before.DifferIn after field) :
    names = differing before after := by
  have sorted := ascending_differing before after
  have members (field : String) : field ∈ names ↔ field ∈ differing before after :=
    (named field).trans mem_differing_iff.symm
  have perm : names.Perm (differing before after) :=
    (List.perm_ext_iff_of_nodup (ascending.imp ne_of_lt) (sorted.imp ne_of_lt)).mpr members
  refine perm.eq_of_pairwise ?_ ascending sorted
  intro left right _ _ below above
  exact absurd above (lt_asymm below)

end Fields

variable {before after : Option Record} {change : RecordChange}

/-- How a record changed is what the change tells. -/
theorem of?_eq_some_iff : of? before after = some change ↔ Tells before after change := by
  constructor
  · intro changed
    cases before with
    | none =>
        cases after with
        | none => cases changed
        | some after =>
            obtain rfl := Option.some.inj changed
            exact .created
    | some before =>
        cases after with
        | none =>
            obtain rfl := Option.some.inj changed
            exact .deleted
        | some after =>
            rw [of?, between?] at changed
            split at changed
            case isTrue different =>
              obtain rfl := Option.some.inj changed
              exact .retyped different
            case isFalse same =>
              split at changed
              case h_1 => cases changed
              case h_2 listed =>
                obtain rfl := Option.some.inj changed
                exact .changed (not_not.mp same) listed (ascending_differing before after)
                  fun field => mem_differing_iff
  · intro tells
    cases tells with
    | created => rfl
    | deleted => rfl
    | retyped different => exact if_pos different
    | changed tags any ascending named =>
        obtain rfl := eq_differing ascending named
        rw [of?, between?, if_neg (not_not.mpr tags)]
        split
        case h_1 none => exact absurd none any
        case h_2 => rfl

end RecordChange

theorem Commit.of_empty (subscriptions : Std.ExtTreeMap Nat Subscription) :
    of ∅ subscriptions = empty := by
  have silent : (of ∅ subscriptions).due = [] := by
    rw [due_of, List.filterMap_eq_nil_iff]
    rintro ⟨number, subscription⟩ -
    simp [due?]
  rw [empty, ← silent]
  rfl

namespace Store

variable {ε α : Type} {store : Store} {edit : Edit ε α} {id : RecordId}

/-- The commit of an update holds the changes between the records before and after it. -/
theorem getElem?_changes_update (store : Store) (edit : Edit ε α) (id : RecordId) :
    (store.update edit).commit.changes[id]? =
      RecordChange.of? store.records[id]? (store.update edit).store.records[id]? := by
  rw [update]
  split
  split
  · exact store.getElem?_changes _ id
  · rw [RecordChange.of?_self]
    rfl

/-- An update changes a record exactly if it differs afterwards. -/
theorem mem_changes_update_iff :
    id ∈ (store.update edit).commit.changes ↔
      store.records.view id ≠ (store.update edit).store.records.view id := by
  rw [Std.ExtTreeMap.mem_iff_isSome_getElem?, getElem?_changes_update, Option.isSome_iff_ne_none,
    ne_eq, RecordChange.of?_eq_none_iff]
  rfl

theorem getElem?_update_of_unchanged (unchanged : id ∉ (store.update edit).commit.changes) :
    (store.update edit).store.records[id]? = store.records[id]? := by
  have same := not_not.mp (mt mem_changes_update_iff.mpr unchanged)
  have kept := @Cache.read_update_of_same ε α { store } edit id
  simp only [Cache.update, Cache.store_publish, Cache.read, read] at kept
  exact kept same.symm

theorem isEmpty_commit_iff :
    (store.update edit).commit.isEmpty ↔ store.records.Same (store.update edit).store.records := by
  rw [Commit.isEmpty, Std.ExtTreeMap.isEmpty_iff, Std.ExtTreeMap.eq_empty_iff_forall_not_mem,
    Records.same_iff_view, funext_iff]
  exact forall_congr' fun id => by rw [mem_changes_update_iff, not_not]

theorem commit_update_of_isEmpty (unchanged : (store.update edit).commit.changes = ∅) :
    (store.update edit).commit = .empty := by
  rw [update] at unchanged ⊢
  split at unchanged
  split at unchanged
  · dsimp only
    rw [show store.changes _ = ∅ from unchanged, Commit.of_empty]
  · rfl

theorem update_of_same (edit : Edit ε α)
    (same : (store.update edit).store.records.view = store.records.view) :
    (store.update edit).store.records = store.records ∧ (store.update edit).commit = .empty := by
  have unchanged (id : RecordId) : id ∉ (store.update edit).commit.changes := by
    rw [mem_changes_update_iff, same, not_not]
  refine ⟨?_, commit_update_of_isEmpty ?_⟩
  · exact Std.ExtTreeMap.ext_getElem? fun id => getElem?_update_of_unchanged (unchanged id)
  · exact Std.ExtTreeMap.eq_empty_iff_forall_not_mem.mpr unchanged

/-- The commit of every update, whether it succeeds or fails, tells exactly what changed. It names
the records that are not the same afterwards, and of each what changed; every other record is left
as it was. So it is empty if and only if no record changed, whatever was written in between. -/
theorem commit_tells_changes (store : Store) (edit : Edit ε α) :
    let written := store.update edit
    let before := store.records
    let after := written.store.records
    (∀ id, id ∈ written.commit.changes ↔ before.view id ≠ after.view id) ∧
      (∀ (id : RecordId) (change : RecordChange), written.commit.changes[id]? = some change ↔
        RecordChange.Tells before[id]? after[id]? change) ∧
      (∀ id : RecordId, id ∉ written.commit.changes → after[id]? = before[id]?) ∧
      (written.commit.isEmpty ↔ before.Same after) := by
  intro written before after
  refine ⟨fun id => mem_changes_update_iff, ?_,
    fun id => getElem?_update_of_unchanged, isEmpty_commit_iff⟩
  intro id change
  rw [store.getElem?_changes_update edit id]
  exact RecordChange.of?_eq_some_iff

/-- A record that is deleted and created again as it was is not told of. -/
example :
    let block : RecordId := .persisted "b"
    let record : Record := ⟨"TextBlock", .ofList [(Field.content, .scalar (.str "a"))]⟩
    let again : Edit StoreError Unit := do
      let _ ← Edit.delete block
      Edit.create block record
    (Store.update { records := .ofList [(block, record)] } again).commit.isEmpty = true := by
  decide +kernel

end Store

end RealmDesk
