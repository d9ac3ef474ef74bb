import RealmDesk.Proofs.Store.Changes

/-!
# Merging id by id

A snapshot that holds each id once shows as a view itself, and to merge it is to lay this view over
the records. The order of two layers does not matter if they agree wherever both have a value. Nor
does it matter whether a record is deleted, or a list of blocks changed, before or after a layer
that names neither.
-/

namespace RealmDesk

namespace Record

/-- Two records have one type, and one value in every field that both have. -/
structure Agrees (left right : Record) : Prop where
  tags : left.typeTag = right.typeTag
  values : ∀ {field : String} {leftValue rightValue : FieldValue},
    left.get? field = some leftValue → right.get? field = some rightValue → leftValue = rightValue

variable {left right : Record}

theorem Agrees.or_comm (agrees : left.Agrees right) (field : String) :
    (right.get? field).or (left.get? field) = (left.get? field).or (right.get? field) := by
  cases leftNamed : left.get? field with
  | none => rw [Option.or_none, Option.none_or]
  | some leftValue =>
      cases rightNamed : right.get? field with
      | none => rfl
      | some rightValue => exact congrArg some (agrees.values leftNamed rightNamed).symm

theorem Agrees.merge_comm (agrees : left.Agrees right) : left.merge right = right.merge left := by
  refine eq_of_get? agrees.tags.symm ?_
  intro field
  rw [get?_merge, get?_merge]
  exact agrees.or_comm field

theorem Agrees.merge_merge_comm (agrees : left.Agrees right) (record : Record) :
    (record.merge left).merge right = (record.merge right).merge left := by
  refine eq_of_get? agrees.tags.symm ?_
  intro field
  rw [get?_merge, get?_merge, get?_merge, get?_merge, ← Option.or_assoc, ← Option.or_assoc,
    agrees.or_comm field]

/-- The record with its list of blocks changed. -/
def reorder (change : List RecordId → List RecordId) (record : Record) : Record :=
  record.set Field.blocks (.links (change (record.links Field.blocks)))

/-- A merge that does not name the blocks can come before or after they change. -/
theorem merge_reorder (change : List RecordId → List RecordId) (record : Record)
    {incoming : Record} (absent : incoming.get? Field.blocks = none) :
    (record.reorder change).merge incoming = (record.merge incoming).reorder change := by
  refine eq_of_get? rfl ?_
  intro field
  rw [reorder, reorder, get?_merge, record.links_merge_of_absent absent]
  by_cases same : field = Field.blocks
  · rw [same, absent, Option.none_or, get?_set_self, get?_set_self]
  · rw [get?_set_of_ne _ _ same, get?_set_of_ne _ _ same, get?_merge]

theorem reorder_reorder (first second : List RecordId → List RecordId) (record : Record) :
    (record.reorder first).reorder second = record.reorder (second ∘ first) := by
  refine eq_of_get? rfl ?_
  intro field
  rw [reorder, reorder, reorder, links_set_self]
  by_cases same : field = Field.blocks
  · rw [same, get?_set_self, get?_set_self]
    rfl
  · rw [get?_set_of_ne _ _ same, get?_set_of_ne _ _ same, get?_set_of_ne _ _ same]

end Record

/-- The view that a snapshot gives. -/
def Snapshot.view (snapshot : Snapshot) : View :=
  fun id => (snapshot.get? id).map Record.unsignedZeros

theorem Snapshot.exists_of_view {snapshot : Snapshot} {id : RecordId} {incoming : Record}
    (found : snapshot.view id = some incoming) :
    ∃ record, (id, record) ∈ snapshot.entries ∧ incoming = record.unsignedZeros := by
  obtain ⟨record, present, same⟩ := Option.map_eq_some_iff.mp found
  exact ⟨record, mem_of_get? present, same.symm⟩

namespace View

/-- The view under a layer: each record of the layer is merged into the one below it. -/
def overlay (view layer : View) : View :=
  fun id => (layer id).elim (view id) fun incoming =>
    some ((view id).elim incoming (·.merge incoming))

variable {view layer left right : View} {id : RecordId}

theorem overlay_of_none (absent : layer id = none) : view.overlay layer id = view id := by
  rw [overlay, absent]
  rfl

theorem overlay_of_some {incoming : Record} (present : layer id = some incoming) :
    view.overlay layer id = some ((view id).elim incoming (·.merge incoming)) := by
  rw [overlay, present]
  rfl

theorem overlay_congr {other : View} (same : view id = other id) (layer : View) :
    view.overlay layer id = other.overlay layer id := by
  rw [overlay, overlay, same]

theorem isSome_overlay (present : (view id).isSome) (layer : View) :
    (view.overlay layer id).isSome := by
  cases incoming : layer id with
  | none => rwa [overlay_of_none incoming]
  | some record =>
      rw [overlay_of_some incoming]
      rfl

/-- Where each id stands once, the order in which the records are merged does not show. -/
theorem mergeSnapshot_eq_overlay {snapshot : Snapshot} (view : View)
    (distinct : snapshot.entries.Pairwise fun left right => left.1 ≠ right.1) :
    view.mergeSnapshot snapshot = view.overlay snapshot.view := by
  obtain ⟨entries⟩ := snapshot
  induction entries generalizing view with
  | nil => rfl
  | cons entry entries induction =>
      obtain ⟨different, distinct⟩ := List.pairwise_cons.mp distinct
      rw [mergeSnapshot_cons, induction _ distinct]
      funext id
      by_cases same : id = entry.1
      · subst same
        -- No later entry has this id, so what the first one merges is final.
        have later : Snapshot.view ⟨entries⟩ entry.1 = none := by
          rw [Snapshot.view, Snapshot.get?, Option.map_eq_none_iff, List.lookup_eq_none_iff]
          intro other member
          simpa using different other member
        have first : Snapshot.view ⟨entry :: entries⟩ entry.1 = some entry.2.unsignedZeros := by
          rw [Snapshot.view, Snapshot.get?, List.lookup_cons_self, Option.map_some]
        rw [overlay_of_none later, overlay_of_some first, merge, Function.update_self]
      · have passed : Snapshot.view ⟨entry :: entries⟩ id = Snapshot.view ⟨entries⟩ id := by
          rw [Snapshot.view, Snapshot.get?, List.lookup_cons, beq_eq_false_iff_ne.mpr same]
          rfl
        rw [overlay, overlay, passed, merge_of_ne view _ same]

/-- What a snapshot says of a record shows where it is merged. -/
theorem exists_mergeSnapshot {snapshot : Snapshot} {id : RecordId} {incoming : Record} (view : View)
    (distinct : snapshot.entries.Pairwise fun left right => left.1 ≠ right.1)
    (found : snapshot.get? id = some incoming) :
    ∃ record, view.mergeSnapshot snapshot id = some record ∧ record.typeTag = incoming.typeTag ∧
      ∀ field value, incoming.get? field = some value →
        record.get? field = some value.unsignedZeros := by
  have layer : snapshot.view id = some incoming.unsignedZeros := by
    rw [Snapshot.view, found, Option.map_some]
  rw [mergeSnapshot_eq_overlay _ distinct, overlay_of_some layer]
  refine ⟨_, rfl, ?_, fun field value named => ?_⟩
  · cases view id <;> rfl
  · cases view id <;> simp [named]

/-- Two layers agree on every record that both have. -/
def Agrees (left right : View) : Prop :=
  ∀ (id : RecordId) (leftRecord rightRecord : Record),
    left id = some leftRecord → right id = some rightRecord → leftRecord.Agrees rightRecord

/-- Layers that agree can be laid in either order. -/
theorem overlay_comm (view : View) (agrees : left.Agrees right) :
    (view.overlay left).overlay right = (view.overlay right).overlay left := by
  funext id
  cases onLeft : left id with
  | none =>
      have below : view.overlay left id = view id := overlay_of_none onLeft
      rw [overlay_of_none onLeft]
      exact overlay_congr below right
  | some leftRecord =>
      cases onRight : right id with
      | none =>
          have below : view.overlay right id = view id := overlay_of_none onRight
          rw [overlay_of_none onRight]
          exact (overlay_congr below left).symm
      | some rightRecord =>
          have agreed := agrees id leftRecord rightRecord onLeft onRight
          rw [overlay_of_some onLeft, overlay_of_some onRight, overlay_of_some onLeft,
            overlay_of_some onRight]
          cases view id with
          | none => exact congrArg some agreed.merge_comm
          | some record => exact congrArg some (agreed.merge_merge_comm record)

/-- The view without a record. -/
def delete (view : View) (id : RecordId) : View :=
  Function.update view id none

/-- The view with the blocks of a record changed. -/
def reorder (view : View) (id : RecordId) (change : List RecordId → List RecordId) : View :=
  Function.update view id ((view id).map (·.reorder change))

theorem setBlocks_eq_reorder (view : View) (id : RecordId)
    (change : List RecordId → List RecordId) :
    view.setBlocks id (change (view.blocks id)) = view.reorder id change := by
  rw [setBlocks, set, reorder, blocks]
  cases view id <;> rfl

theorem delete_of_ne {target : RecordId} (view : View) (different : target ≠ id) :
    view.delete id target = view target :=
  Function.update_of_ne different ..

theorem reorder_of_ne {target : RecordId} (view : View) (change : List RecordId → List RecordId)
    (different : target ≠ id) : view.reorder id change target = view target :=
  Function.update_of_ne different ..

theorem isSome_reorder (view : View) (id : RecordId) (change : List RecordId → List RecordId)
    (target : RecordId) : (view.reorder id change target).isSome = (view target).isSome := by
  by_cases same : target = id
  · rw [same, reorder, Function.update_self, Option.isSome_map]
  · rw [reorder_of_ne view change same]

theorem overlay_delete (view : View) (unnamed : layer id = none) :
    (view.delete id).overlay layer = (view.overlay layer).delete id := by
  funext target
  by_cases same : target = id
  · rw [same, overlay_of_none unnamed, delete, delete, Function.update_self, Function.update_self]
  · rw [delete_of_ne _ same]
    exact overlay_congr (view.delete_of_ne same) layer

theorem overlay_reorder (present : (view id).isSome)
    (unnamed : ∀ incoming, layer id = some incoming → incoming.get? Field.blocks = none)
    (change : List RecordId → List RecordId) :
    (view.reorder id change).overlay layer = (view.overlay layer).reorder id change := by
  obtain ⟨record, found⟩ := Option.isSome_iff_exists.mp present
  funext target
  by_cases same : target = id
  · subst same
    have changed : view.reorder target change target = some (record.reorder change) := by
      rw [reorder, Function.update_self, found, Option.map_some]
    have above : (view.overlay layer).reorder target change target =
        (view.overlay layer target).map (·.reorder change) :=
      Function.update_self ..
    rw [above]
    cases incoming : layer target with
    | none =>
        rw [overlay_of_none incoming, overlay_of_none incoming, changed, found, Option.map_some]
    | some merged =>
        rw [overlay_of_some incoming, overlay_of_some incoming, changed, found]
        exact congrArg some (record.merge_reorder change (unnamed merged incoming))
  · rw [reorder_of_ne _ change same]
    exact overlay_congr (view.reorder_of_ne change same) layer

theorem delete_comm (view : View) (first second : RecordId) :
    (view.delete first).delete second = (view.delete second).delete first := by
  by_cases same : first = second
  · rw [same]
  · exact Function.update_comm same none none view

theorem reorder_delete {deleted : RecordId} (view : View) (different : id ≠ deleted)
    (change : List RecordId → List RecordId) :
    (view.delete deleted).reorder id change = (view.reorder id change).delete deleted := by
  rw [reorder, delete_of_ne view different]
  exact Function.update_comm different.symm ..

theorem reorder_comm (view : View) {first second : RecordId}
    {change other : List RecordId → List RecordId}
    (commute : first = second → other ∘ change = change ∘ other) :
    (view.reorder first change).reorder second other =
      (view.reorder second other).reorder first change := by
  by_cases same : first = second
  · subst same
    rw [reorder, reorder, reorder, reorder, Function.update_self, Function.update_self,
      Function.update_idem, Function.update_idem, Option.map_map, Option.map_map]
    congr 2
    funext record
    change (record.reorder change).reorder other = (record.reorder other).reorder change
    rw [Record.reorder_reorder, Record.reorder_reorder, commute rfl]
  · rw [reorder, reorder_of_ne view change (Ne.symm same), reorder]
    conv_rhs => rw [reorder, reorder_of_ne view other same, reorder]
    exact Function.update_comm same ..

end View

end RealmDesk
