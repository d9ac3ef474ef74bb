import RealmDesk.Proofs.Saving.Requests
import RealmDesk.Proofs.Store.Landing
import RealmDesk.Proofs.Store.Overlay

/-!
# What a creation leaves behind

A creation that is saved changes one slot by itself: the id of the server takes the place of the
pending id in the list of the realm, which may have changed in any way since the request was sent.
The pending record goes, and all other fields of all other records are merged with those of the
answer. What the answer says of the list of the realm does not count.
-/

namespace RealmDesk

/-- The value of a field of the record with an id. -/
def Cache.value? (cache : Cache) (id : RecordId) (field : String) : Option FieldValue :=
  (cache.read id).bind (·.get? field)

/-- The value that a snapshot has for a field of the record with an id. -/
def Snapshot.value? (snapshot : Snapshot) (id : RecordId) (field : String) : Option FieldValue :=
  (snapshot.get? id).bind (·.get? field)

/-- How a cache differs from an earlier one after a creation was saved. -/
structure Cache.Reconciled (before after : Cache) (snapshot : Snapshot)
    (pending saved realm : RecordId) : Prop where
  /-- The pending id has no record. -/
  gone : after.read pending = none
  /-- The realm lists the id of the server where it first listed the pending id, and is otherwise
  in the order it had, whatever the answer lists. -/
  listed : ∃ old new, before.read realm = some old ∧ after.read realm = some new ∧
    new.links? Field.blocks = some ((old.links Field.blocks).replace pending saved)
  /-- Every other record is there that was there or that the answer brings, and the type that the
  answer gives counts. -/
  tags : ∀ id, id ≠ pending → (after.read id).map Record.typeTag =
    ((snapshot.get? id).or (before.read id)).map Record.typeTag
  /-- Every other field has the value that the answer gives, and its old one if the answer leaves
  it out. -/
  values : ∀ id field, id ≠ pending → ¬(id = realm ∧ field = Field.blocks) →
    (after.value? id field).map FieldValue.unsignedZeros =
      ((snapshot.value? id field).or (before.value? id field)).map FieldValue.unsignedZeros
  /-- A record that the answer does not bring is left as it is. -/
  unnamed : ∀ id, id ≠ pending → id ≠ realm → snapshot.get? id = none →
    after.read id = before.read id
  /-- Nothing else of the store changes. -/
  rest : after.store = { before.store with records := after.store.records }
  /-- All of it is published in one commit. -/
  shown : before.ShownAtOnce after

namespace View

variable {view layer : View} {snapshot : Snapshot} {pending saved realm id : RecordId}
  {field : String}

/-- The value of a field in a view. -/
def value? (view : View) (id : RecordId) (field : String) : Option FieldValue :=
  (view id).bind (·.get? field)

theorem map_typeTag_overlay (view layer : View) (id : RecordId) :
    (view.overlay layer id).map Record.typeTag =
      ((layer id).or (view id)).map Record.typeTag := by
  cases incoming : layer id with
  | none => rw [overlay_of_none incoming, Option.none_or]
  | some record =>
      rw [overlay_of_some incoming]
      cases view id <;> rfl

theorem value?_overlay (view layer : View) (id : RecordId) (field : String) :
    (view.overlay layer).value? id field = (layer.value? id field).or (view.value? id field) := by
  rw [value?, value?, value?]
  cases incoming : layer id with
  | none => rw [overlay_of_none incoming, Option.bind_none, Option.none_or]
  | some record =>
      rw [overlay_of_some incoming]
      cases view id with
      | none => simp
      | some below => simp

theorem value?_setBlocks_self (present : (view id).isSome) (targets : List RecordId) :
    (view.setBlocks id targets).value? id Field.blocks = some (.links targets) := by
  obtain ⟨record, found⟩ := Option.isSome_iff_exists.mp present
  simp [value?, setBlocks, set, found]

theorem value?_setBlocks_of_ne (view : View) {id other : RecordId} (targets : List RecordId)
    (different : ¬(other = id ∧ field = Field.blocks)) :
    (view.setBlocks id targets).value? other field = view.value? other field := by
  by_cases same : other = id
  · subst same
    have elsewhere : field ≠ Field.blocks := fun list => different ⟨rfl, list⟩
    cases found : view other with
    | none => simp [value?, setBlocks, set, found]
    | some record => simp [value?, setBlocks, set, found, Record.get?_set_of_ne _ _ elsewhere]
  · rw [value?, value?, setBlocks, set_of_ne view _ _ same]

theorem value?_update_none_of_ne (different : id ≠ pending) :
    value? (Function.update view pending none) id field = view.value? id field := by
  rw [value?, value?, Function.update_of_ne different]

theorem value?_view_withoutField (snapshot : Snapshot) (realm id : RecordId) (field : String) :
    (snapshot.withoutField realm Field.blocks).view.value? id field =
      if id = realm ∧ field = Field.blocks then none
      else (snapshot.value? id field).map FieldValue.unsignedZeros := by
  rw [value?, Snapshot.view, Snapshot.get?_withoutField, Snapshot.value?]
  cases snapshot.get? id with
  | none => simp
  | some record =>
      by_cases named : id = realm
      · by_cases list : field = Field.blocks
        · simp [named, list, Record.get?_erase]
        · simp [named, list, Record.get?_erase, Ne.symm list]
      · simp [named]

theorem map_typeTag_view_withoutField (snapshot : Snapshot) (realm id : RecordId) (field : String) :
    ((snapshot.withoutField realm field).view id).map Record.typeTag =
      (snapshot.get? id).map Record.typeTag := by
  rw [Snapshot.view, Snapshot.get?_withoutField]
  cases snapshot.get? id with
  | none => rfl
  | some record =>
      by_cases named : id = realm
      · simp only [Option.map_some, if_pos named]
        rfl
      · simp only [Option.map_some, if_neg named]
        rfl

theorem view_withoutField_of_unnamed (realm : RecordId) (field : String)
    (unnamed : snapshot.get? id = none) : (snapshot.withoutField realm field).view id = none := by
  rw [Snapshot.view, Snapshot.get?_withoutField, unnamed]
  rfl

/-- The records before the answer is laid over them. -/
private theorem adopt_eq_overlay (view : View) (pending saved realm : RecordId)
    (distinct : snapshot.entries.Pairwise fun left right => left.1 ≠ right.1) :
    view.adopt pending saved realm snapshot =
      overlay (Function.update
          (view.setBlocks realm ((view.blocks realm).replace pending saved)) pending none)
        (snapshot.withoutField realm Field.blocks).view :=
  mergeSnapshot_eq_overlay _ (Snapshot.distinct_withoutField distinct _ _)

variable (distinct : snapshot.entries.Pairwise fun left right => left.1 ≠ right.1)
include distinct

theorem map_typeTag_adopt (different : id ≠ pending) :
    (view.adopt pending saved realm snapshot id).map Record.typeTag =
      ((snapshot.get? id).or (view id)).map Record.typeTag := by
  have kept (targets : List RecordId) :
      (view.setBlocks realm targets id).map Record.typeTag = (view id).map Record.typeTag := by
    by_cases same : id = realm
    · subst same
      cases found : view id with
      | none => simp [setBlocks, set, found]
      | some record =>
          simp only [setBlocks, set, found, Function.update_self]
          rfl
    · rw [setBlocks, set_of_ne view _ _ same]
  have named := map_typeTag_view_withoutField snapshot realm id Field.blocks
  rw [adopt_eq_overlay view pending saved realm distinct, map_typeTag_overlay, Option.map_or,
    Option.map_or, named, Function.update_of_ne different, kept]

theorem value?_adopt_of_ne (different : id ≠ pending)
    (other : ¬(id = realm ∧ field = Field.blocks)) :
    (view.adopt pending saved realm snapshot).value? id field =
      ((snapshot.value? id field).map FieldValue.unsignedZeros).or (view.value? id field) := by
  rw [adopt_eq_overlay view pending saved realm distinct, value?_overlay,
    value?_view_withoutField, if_neg other, value?_update_none_of_ne different,
    value?_setBlocks_of_ne view _ other]

/-- The list of the realm changes in one slot at most, whatever the answer says of it. -/
theorem value?_adopt_blocks (present : (view realm).isSome) (different : realm ≠ pending) :
    (view.adopt pending saved realm snapshot).value? realm Field.blocks =
      some (.links ((view.blocks realm).replace pending saved)) := by
  rw [adopt_eq_overlay view pending saved realm distinct, value?_overlay,
    value?_view_withoutField, if_pos ⟨rfl, rfl⟩, Option.none_or,
    value?_update_none_of_ne different, value?_setBlocks_self present]

theorem adopt_of_unnamed (notPending : id ≠ pending) (notRealm : id ≠ realm)
    (unnamed : snapshot.get? id = none) :
    view.adopt pending saved realm snapshot id = view id := by
  have absent := view_withoutField_of_unnamed realm Field.blocks unnamed
  rw [adopt_eq_overlay view pending saved realm distinct, overlay_of_none absent,
    Function.update_of_ne notPending, setBlocks, set_of_ne view _ _ notRealm]

theorem adopt_pending (unnamed : snapshot.get? pending = none) :
    view.adopt pending saved realm snapshot pending = none := by
  have absent := view_withoutField_of_unnamed realm Field.blocks unnamed
  rw [adopt_eq_overlay view pending saved realm distinct, overlay_of_none absent,
    Function.update_self]

end View

/-! ## What is read after an update -/

namespace Cache

theorem map_value? (cache : Cache) (id : RecordId) (field : String) :
    (cache.value? id field).map FieldValue.unsignedZeros =
      cache.store.records.view.value? id field := by
  rw [value?, View.value?, Records.view, read, Store.read]
  cases cache.store.records[id]? with
  | none => rfl
  | some record => simp

theorem map_typeTag_view (cache : Cache) (id : RecordId) :
    (cache.store.records.view id).map Record.typeTag = (cache.read id).map Record.typeTag := by
  rw [Records.view, read, Store.read]
  cases cache.store.records[id]? <;> rfl

end Cache

namespace Dispatcher

/-- A result can be read, and names the block that was created from an input at an index. -/
def Names (result : ApiResult Json) (input : BlockInput) (index : Nat) (normalized : Normalized)
    (saved : RecordId) : Prop :=
  Normalized.ofResult result = .ok normalized ∧
    createdBlock? normalized (Operation.createBlockField input.kind) index = some saved

variable {dispatcher : Dispatcher} {cache after : Cache} {request : SaveRequest}
  {result : ApiResult Json} {previous saved : RecordId}

/-- A creation counts as saved if its answer names the block and can be reconciled. -/
theorem finish_eq_saved_iff {realm : String} {index : Nat} {input : BlockInput}
    (creates : request.mutation = .create realm index input) :
    finish cache request result = (.saved previous saved, after) ↔
      previous = request.block ∧ ∃ normalized, Names result input index normalized saved ∧
        cache.update (reconcile request.block saved (.persisted realm) normalized.snapshot) =
          (.ok (), after) := by
  constructor
  · intro finishes
    rw [finish] at finishes
    cases read : Normalized.ofResult result with
    | error error => simp [read] at finishes
    | ok normalized =>
        simp only [read, apply, creates] at finishes
        cases named : createdBlock? normalized (Operation.createBlockField input.kind) index with
        | none => simp [named] at finishes
        | some created =>
            simp only [named] at finishes
            cases ran : cache.update
                (reconcile request.block created (.persisted realm) normalized.snapshot) with
            | mk outcome written =>
                cases outcome with
                | error error => simp [ran] at finishes
                | ok done =>
                    simp only [ran, Prod.mk.injEq, SaveOutcome.saved.injEq] at finishes
                    obtain ⟨⟨rfl, rfl⟩, rfl⟩ := finishes
                    exact ⟨rfl, normalized, ⟨read, named⟩, ran⟩
  · rintro ⟨rfl, normalized, ⟨read, named⟩, reconciles⟩
    simp only [finish, read, apply, creates, named, reconciles]

/-- The update that a saved creation runs does nothing else. -/
theorem reconciled_of_update {snapshot : Snapshot} {pending realm : RecordId}
    (closed : snapshot.Closed) (unsaved : pending.isPending) (different : realm ≠ pending)
    (reconciles : cache.update (reconcile pending saved realm snapshot) = (.ok (), after)) :
    cache.Reconciled after snapshot pending saved realm := by
  have present : (cache.store.records.view realm).isSome := by
    by_contra absent
    rw [update_reconcile_of_absent (by simpa using absent)] at reconciles
    cases reconciles
  obtain ⟨-, wrote⟩ := update_reconcile_of_stored present pending saved snapshot
  have shown := cache.shownAtOnce_update (reconcile pending saved realm snapshot)
  have unnamed {id : RecordId} (notPending : id ≠ pending) (notRealm : id ≠ realm)
      (unnamed : snapshot.get? id = none) :=
    Cache.read_update_of_same (reconcile pending saved realm snapshot)
      ((congrFun wrote.view id).trans
        (View.adopt_of_unnamed closed.distinct notPending notRealm unnamed))
  rw [reconciles] at wrote shown unnamed
  have unbrought : snapshot.get? pending = none := by
    rw [Option.eq_none_iff_forall_ne_some]
    intro record brought
    have persisted := closed.saved _ (Snapshot.mem_of_get? brought)
    simp [unsaved] at persisted
  constructor
  case gone =>
    have nothing := congrFun wrote.view pending
    rw [View.adopt_pending closed.distinct unbrought, Records.view] at nothing
    exact Option.map_eq_none_iff.mp nothing
  case listed =>
    obtain ⟨old, stored⟩ := Option.isSome_iff_exists.mp (Option.isSome_map.symm.trans present)
    have list : cache.store.records.view.blocks realm = old.links Field.blocks := by
      simp [View.blocks, Records.view, stored]
    have value := after.map_value? realm Field.blocks
    rw [wrote.view, View.value?_adopt_blocks closed.distinct present different, list] at value
    obtain ⟨listed, named, alike⟩ := Option.map_eq_some_iff.mp value
    obtain ⟨new, kept, named⟩ := Option.bind_eq_some_iff.mp named
    refine ⟨old, new, stored, kept, ?_⟩
    rw [Record.links?, named, Option.bind_some, ← FieldValue.links?_unsignedZeros, alike]
    rfl
  case tags =>
    intro id notPending
    rw [← Cache.map_typeTag_view, wrote.view, View.map_typeTag_adopt closed.distinct notPending,
      Option.map_or, Option.map_or, Cache.map_typeTag_view]
  case values =>
    intro id field notPending other
    rw [Cache.map_value?, wrote.view, View.value?_adopt_of_ne closed.distinct notPending other,
      Option.map_or, Cache.map_value?]
  case unnamed => exact fun id notPending notRealm absent => unnamed notPending notRealm absent
  case rest => exact wrote.rest
  case shown => exact shown

section Creation

variable {ticket : Nat} {realm : String} {index : Nat} {input : BlockInput}
  (found : dispatcher.inFlight[ticket]? = some request)
  (creates : request.mutation = .create realm index input)
include found creates

theorem reconciled_of_complete {later : Dispatcher} (unsaved : request.block.isPending)
    (completed : dispatcher.complete cache ticket result =
      .ok (.saved previous saved, later, after)) :
    previous = request.block ∧ ∃ normalized, Names result input index normalized saved ∧
      cache.Reconciled after normalized.snapshot request.block saved (.persisted realm) := by
  obtain ⟨finished, standing, -, finishes⟩ := exists_of_complete completed
  obtain rfl := Option.some.inj (found.symm.trans standing)
  obtain ⟨same, normalized, names, reconciles⟩ := (finish_eq_saved_iff creates).mp finishes
  have closed := (Normalized.closed_of_ofResult names.1).1
  have different : RecordId.persisted realm ≠ request.block := by
    intro equal
    rw [← equal] at unsaved
    cases unsaved
  exact ⟨same, normalized, names, reconciled_of_update closed unsaved different reconciles⟩

theorem exists_complete_of_names (stored : (cache.read (.persisted realm)).isSome)
    {normalized : Normalized} (names : Names result input index normalized saved) :
    ∃ later after, dispatcher.complete cache ticket result =
      .ok (.saved request.block saved, later, after) := by
  have present : (cache.store.records.view (.persisted realm)).isSome := by
    rw [Records.view, Option.isSome_map]
    exact stored
  obtain ⟨done, -⟩ := update_reconcile_of_stored present request.block saved normalized.snapshot
  have reconciles : cache.update (reconcile request.block saved (.persisted realm)
      normalized.snapshot) = (.ok (), _) := Prod.ext done rfl
  have finishes := (finish_eq_saved_iff creates).mpr ⟨rfl, normalized, names, reconciles⟩
  have completed := complete_of_found found cache result
  rw [finishes] at completed
  exact ⟨_, _, completed⟩

/-- The answer to a creation counts as saved exactly if it names the block and the realm is still
stored. Then it changes one slot of the realm and merges the rest: the realm lists the id of the
server in the first slot of the pending id, the pending id has no record any more, every other field
takes the value of the answer or keeps its own, and all this is published in one commit. -/
theorem reconciled_of_saved (unsaved : request.block.isPending) (cache : Cache)
    (result : ApiResult Json) :
    ((∃ previous saved later after, dispatcher.complete cache ticket result =
        .ok (.saved previous saved, later, after)) ↔
      (cache.read (.persisted realm)).isSome ∧
        ∃ normalized saved, Names result input index normalized saved) ∧
      ∀ previous saved later after, dispatcher.complete cache ticket result =
          .ok (.saved previous saved, later, after) →
        previous = request.block ∧ ∃ normalized, Names result input index normalized saved ∧
          cache.Reconciled after normalized.snapshot request.block saved (.persisted realm) := by
  refine ⟨⟨?_, ?_⟩, ?_⟩
  · rintro ⟨previous, saved, later, after, completed⟩
    obtain ⟨-, normalized, names, reconciled⟩ :=
      reconciled_of_complete found creates unsaved completed
    obtain ⟨old, new, stored, -⟩ := reconciled.listed
    exact ⟨Option.isSome_of_eq_some stored, normalized, saved, names⟩
  · rintro ⟨stored, normalized, saved, names⟩
    exact ⟨request.block, saved, exists_complete_of_names found creates stored names⟩
  · intro previous saved later after completed
    exact reconciled_of_complete found creates unsaved completed

end Creation

/-- The answer lists the blocks of the realm in another order than the realm does by then, and
changes the text of a block that is being edited. -/
theorem reconciled_of_saved_out_of_order :
    let realm : RecordId := .persisted "r"
    let block (name text : String) : Json := .obj [("id", .str name),
      ("__typename", .str "TitleBlock"), ("content", .str text)]
    let answer : Json := .obj [("addTitleBlock", .obj [("id", .str "r"),
      ("__typename", .str "Realm"),
      ("blocks", .arr [block "b" "second", block "c" "new", block "a" "first"])])]
    let request : SaveRequest := ⟨1, .pending 1, .create "r" 1 (.title "new")⟩
    let dispatcher : Dispatcher := { inFlight := .ofList [(1, request)], lastTicket := 1 }
    let cache : Cache := { store := { records := .ofList [
      (realm, Record.mk "Realm" (.ofList [(Field.blocks,
        .links [.persisted "a", .pending 1, .persisted "b"])])),
      (.persisted "a", Record.mk "TitleBlock" (.ofList [
        (Field.content, .scalar (.str "old")), (Field.editMode, .scalar (.bool true))])),
      (.persisted "b", Record.mk "TitleBlock" ∅), (.pending 1, Record.mk "TitleBlock" ∅)] } }
    ∃ later after normalized, dispatcher.complete cache 1 (.ok answer) =
        .ok (.saved (.pending 1) (.persisted "c"), later, after) ∧
      Names (.ok answer) (.title "new") 1 normalized (.persisted "c") ∧
      cache.Reconciled after normalized.snapshot (.pending 1) (.persisted "c") realm := by
  intro realm block answer request dispatcher cache
  have found : dispatcher.inFlight[1]? = some request := by decide +kernel
  have saved : (finish cache request (.ok answer)).1 = .saved (.pending 1) (.persisted "c") := by
    decide +kernel
  have completed := complete_of_found found cache (.ok answer)
  rw [saved] at completed
  obtain ⟨-, normalized, names, reconciled⟩ :=
    (reconciled_of_saved found rfl rfl cache (.ok answer)).2 _ _ _ _ completed
  exact ⟨_, _, normalized, completed, names, reconciled⟩

end Dispatcher

end RealmDesk
