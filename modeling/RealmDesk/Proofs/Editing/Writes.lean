import RealmDesk.Editing.Editor
import RealmDesk.Proofs.Saving.Requests

/-!
# What the editor writes

An insertion, a switch of the edit mode and a cancellation each change the view in one of the known
ways, or not at all. None of them touches the requests in flight; forms that are submitted and
answers that arrive do.
-/

namespace RealmDesk

namespace Editor

theorem newRecord_eq_set (kind : BlockKind) (defaults : FieldMap) :
    newRecord kind defaults = (Record.mk kind.typeTag (kind.defaultFields.merge defaults)).set
      Field.editMode (.scalar (.bool true)) :=
  Record.update_bool _ _ _

@[simp] theorem typeTag_newRecord (kind : BlockKind) (defaults : FieldMap) :
    (newRecord kind defaults).typeTag = kind.typeTag := by
  rw [newRecord_eq_set]
  rfl

/-- The defaults go before the fields of the kind, and the edit mode before both. -/
theorem get?_newRecord (kind : BlockKind) (defaults : FieldMap) (field : String) :
    (newRecord kind defaults).get? field =
      if field = Field.editMode then some (.scalar (.bool true))
      else defaults[field]?.or kind.defaultFields[field]? := by
  rw [newRecord_eq_set]
  split
  case isTrue same => rw [same, Record.get?_set_self]
  case isFalse different =>
    rw [Record.get?_set_of_ne _ _ different, Record.get?, FieldMap.getElem?_merge]

theorem run_lift_of_ok {α : Type} {edit : Edit StoreError α} {draft after : Draft} {value : α}
    (ran : edit.run draft = (.ok value, after)) : (lift edit).run draft = (.ok value, after) := by
  change (fun result => (Except.mapError _ result.1, result.2)) (edit.run draft) = _
  rw [ran]
  rfl

theorem run_lift_of_error {α : Type} {edit : Edit StoreError α} {draft after : Draft}
    {error : StoreError} (ran : edit.run draft = (.error error, after)) :
    (lift edit).run draft = (.error (.store error), after) := by
  change (fun result => (Except.mapError _ result.1, result.2)) (edit.run draft) = _
  rw [ran]
  rfl

theorem run_insertEdit_of_fresh {realm : RecordId} {found : Record} {index : Nat} {draft : Draft}
    (present : draft.get? realm = some found) (typed : found.typeTag = realmType)
    (within : index ≤ (found.links Field.blocks).length)
    (fresh : draft.get? (.pending (draft.lastPending + 1)) = none) (record : Record) :
    let block := RecordId.pending (draft.lastPending + 1)
    let counted := { draft with lastPending := draft.lastPending + 1 }
    (insertEdit realm index record).run draft =
      (.ok block, (counted.stage block (some record)).stage realm
        (some (found.update Field.blocks
          (.links ((found.links Field.blocks).insertIdx index block))))) := by
  intro block counted
  have same (id : RecordId) : counted.get? id = draft.get? id := rfl
  have created := Edit.run_create_of_absent record ((same block).trans fresh)
  have different : block ≠ realm := by
    intro equal
    rw [← equal, fresh] at present
    cases present
  have kept := (Draft.get?_stage_of_ne counted (some record) different).trans
    ((same realm).trans present)
  rw [insertEdit, Edit.run_bind_of_ok _ (Edit.run_get? realm draft), present]
  dsimp only
  rw [if_neg (not_not.mpr typed), if_neg (Nat.not_lt.mpr within),
    Edit.run_bind_of_ok _ (Edit.run_allocate draft),
    Edit.run_bind_of_ok _ (run_lift_of_ok created), Edit.run_bind_of_ok _
      (run_lift_of_ok (Edit.run_setLinks_of_present Field.blocks _ kept))]
  rfl

/-- A block is inserted with the next pending id, or not at all. -/
theorem run_insertEdit (realm : RecordId) (index : Nat) (record : Record) (draft : Draft) :
    let block := RecordId.pending (draft.lastPending + 1)
    let counted := { draft with lastPending := draft.lastPending + 1 }
    (∃ found, draft.get? realm = some found ∧ found.typeTag = realmType ∧
      index ≤ (found.links Field.blocks).length ∧ draft.get? block = none ∧
      (insertEdit realm index record).run draft =
        (.ok block, (counted.stage block (some record)).stage realm
          (some (found.update Field.blocks
            (.links ((found.links Field.blocks).insertIdx index block)))))) ∨
    ∃ error after, draft.lastPending ≤ after.lastPending ∧
      (insertEdit realm index record).run draft = (.error error, after) := by
  intro block counted
  cases present : draft.get? realm with
  | none =>
      refine .inr ⟨.unknownRealm realm, draft, Nat.le_refl _, ?_⟩
      rw [insertEdit, Edit.run_bind_of_ok _ (Edit.run_get? realm draft), present]
      rfl
  | some found =>
      by_cases placed : found.typeTag = realmType ∧ index ≤ (found.links Field.blocks).length ∧
        draft.get? block = none
      · obtain ⟨typed, within, fresh⟩ := placed
        exact .inl ⟨found, rfl, typed, within, fresh,
          run_insertEdit_of_fresh present typed within fresh record⟩
      refine .inr ?_
      rw [insertEdit, Edit.run_bind_of_ok _ (Edit.run_get? realm draft), present]
      dsimp only
      split
      case isTrue =>
        exact ⟨_, _, Nat.le_refl _, Edit.run_bind_of_error _ (Edit.run_throw _ draft)⟩
      case isFalse typed =>
        split
        case isTrue =>
          exact ⟨_, _, Nat.le_refl _, Edit.run_bind_of_error _ (Edit.run_throw _ draft)⟩
        case isFalse within =>
          obtain ⟨occupant, taken⟩ : ∃ occupant, draft.get? block = some occupant := by
            rw [← Option.ne_none_iff_exists']
            exact fun fresh => placed ⟨not_not.mp typed, Nat.not_lt.mp within, fresh⟩
          have same : counted.get? block = draft.get? block := rfl
          have refused := Edit.run_create_of_present record (same.trans taken)
          rw [Edit.run_bind_of_ok _ (Edit.run_allocate draft)]
          exact ⟨_, _, Nat.le_succ _, Edit.run_bind_of_error _ (run_lift_of_error refused)⟩

theorem update_insertEdit (cache : Cache) (realm : RecordId) (index : Nat) (record : Record) :
    let view := cache.store.records.view
    let block := RecordId.pending (cache.store.lastPending + 1)
    let written := cache.update (insertEdit realm index record)
    (written.1 = .ok block ∧ view block = none ∧
      (∃ found, view realm = some found ∧ found.typeTag = realmType) ∧
      index ≤ (view.blocks realm).length ∧
      cache.Wrote written.2 (view.place realm index block record.unsignedZeros)
        (cache.store.lastPending + 1)) ∨
    ∃ error lastPending, written.1 = .error error ∧ cache.store.lastPending ≤ lastPending ∧
      cache.Wrote written.2 view lastPending := by
  intro view block written
  rcases run_insertEdit realm index record cache.draft with
    ⟨found, present, typed, within, fresh, ran⟩ | ⟨error, draft, counted, ran⟩
  · obtain ⟨done, wrote⟩ := Cache.wrote_of_ok ran rfl
    have shown : view realm = some found.unsignedZeros := Cache.view_eq_some present
    have listed : view.blocks realm = found.links Field.blocks := by simp [View.blocks, shown]
    have absent : view block = none := Cache.view_eq_none fresh
    have different : realm ≠ block := by
      intro same
      rw [← same, shown] at absent
      cases absent
    refine .inl ⟨done, absent, ⟨_, shown, typed⟩, listed ▸ within, ?_, wrote.rest,
      wrote.published⟩
    rw [wrote.view, Draft.view_stage, Draft.view_stage, View.place, View.setBlocks, View.set,
      listed, Function.update_of_ne different, shown]
    simp only [Option.map_some, Record.unsignedZeros_update, FieldValue.unsignedZeros_links]
    congr 2
  · obtain ⟨failed, wrote⟩ := Cache.wrote_of_error ran
    exact .inr ⟨error, draft.lastPending, failed, counted, wrote⟩

/-- An insertion places the new record into the list of the realm, or writes nothing. -/
theorem insert_cases (editor : Editor) (cache : Cache) (realm : RecordId) (index : Nat)
    (kind : BlockKind) (defaults : FieldMap) :
    let view := cache.store.records.view
    let block := RecordId.pending (cache.store.lastPending + 1)
    let inserted := editor.insert cache realm index kind defaults
    inserted.2.1.dispatcher = editor.dispatcher ∧
      ((inserted.1 = .ok block ∧ view block = none ∧
        (∃ found, view realm = some found ∧ found.typeTag = realmType) ∧
        index ≤ (view.blocks realm).length ∧
        cache.Wrote inserted.2.2
          (view.place realm index block (newRecord kind defaults).unsignedZeros)
          (cache.store.lastPending + 1)) ∨
      ∃ error lastPending, inserted.1 = .error error ∧ cache.store.lastPending ≤ lastPending ∧
        cache.Wrote inserted.2.2 view lastPending) := by
  intro view block inserted
  rcases update_insertEdit cache realm index (newRecord kind defaults) with
    ⟨done, fresh, present, within, wrote⟩ | ⟨error, lastPending, failed, counted, wrote⟩
  · simp only [inserted, insert]
    rw [show cache.update _ = (_, _) from Prod.ext done rfl]
    exact ⟨rfl, .inl ⟨rfl, fresh, present, within, wrote⟩⟩
  · simp only [inserted, insert]
    rw [show cache.update _ = (_, _) from Prod.ext failed rfl]
    exact ⟨rfl, .inr ⟨error, lastPending, rfl, counted, wrote⟩⟩

theorem insert_of_fresh (editor : Editor) {cache : Cache} {realm : RecordId} {found : Record}
    {index : Nat} (stored : cache.read realm = some found) (typed : found.typeTag = realmType)
    (within : index ≤ (found.links Field.blocks).length)
    (fresh : cache.read (.pending (cache.store.lastPending + 1)) = none) (kind : BlockKind)
    (defaults : FieldMap) :
    (editor.insert cache realm index kind defaults).1 =
      .ok (.pending (cache.store.lastPending + 1)) := by
  have present : cache.draft.get? realm = some found := stored
  have absent : cache.draft.get? (.pending (cache.draft.lastPending + 1)) = none := fresh
  have ran := run_insertEdit_of_fresh present typed within absent (newRecord kind defaults)
  have done := (Cache.wrote_of_ok ran rfl).1
  rw [insert, show cache.update _ = (_, _) from Prod.ext done rfl]
  rfl

/-- Switching the edit mode marks the block, if there is one. -/
theorem wrote_editModeEdit (cache : Cache) (block : RecordId) (on : Bool) :
    cache.Wrote (cache.update (editModeEdit block on)).2
      (cache.store.records.view.mark block on) cache.store.lastPending := by
  cases present : cache.draft.get? block with
  | none =>
      have wrote := (Cache.wrote_of_error (Edit.run_setField_of_absent Field.editMode
        (.scalar (.bool on)) present)).2
      have absent := Cache.view_eq_none present
      exact ⟨wrote.view.trans (View.set_of_absent absent _ _).symm, wrote.rest, wrote.published⟩
  | some record =>
      have wrote := (Cache.wrote_of_ok (Edit.run_setField_of_present Field.editMode
        (.scalar (.bool on)) present) rfl).2
      have shown := Cache.view_eq_some present
      refine ⟨wrote.view.trans ?_, wrote.rest, wrote.published⟩
      rw [Draft.view_stage, Draft.view_start, View.mark, View.set, shown, Option.map_some,
        Record.unsignedZeros_update]
      rfl

theorem dispatcher_openForm (editor : Editor) (block : RecordId) (record : Record) :
    (editor.openForm block record).dispatcher = editor.dispatcher := by
  rw [openForm]
  split <;> rfl

/-- Whatever comes of it, switching the edit mode marks the block at most. -/
theorem setEditMode_wrote (editor : Editor) (cache : Cache) (block : RecordId) (on : Bool) :
    cache.Wrote (editor.setEditMode cache block on).2.2
        (cache.store.records.view.mark block on) cache.store.lastPending ∧
      (editor.setEditMode cache block on).2.1.dispatcher = editor.dispatcher := by
  have wrote := wrote_editModeEdit cache block on
  rw [setEditMode]
  cases present : cache.read block with
  | none =>
      have absent : cache.store.records.view block = none := by
        rw [Records.view, show cache.store.records[block]? = none from present]
        rfl
      refine ⟨?_, rfl⟩
      rw [View.mark, View.set_of_absent absent]
      exact .refl cache
  | some record =>
      dsimp only
      split
      case h_1 error written same =>
        rw [same] at wrote
        exact ⟨wrote, rfl⟩
      case h_2 written same =>
        rw [same] at wrote
        refine ⟨wrote, ?_⟩
        dsimp only
        split
        · exact dispatcher_openForm editor block record
        · rfl

/-! ## Cancelling -/

theorem run_removeEdit (block : RecordId) (realms : List RecordId) (draft : Draft)
    (stored : ∀ realm ∈ realms, (draft.get? realm).isSome) :
    ∃ after, (removeEdit block realms).run draft = (.ok (), after) ∧ after.base = draft.base ∧
      after.lastPending = draft.lastPending ∧ after.view = draft.view.remove block realms := by
  induction realms generalizing draft with
  | nil => exact ⟨draft.stage block none, rfl, rfl, rfl, Draft.view_stage draft block none⟩
  | cons realm realms induction =>
      obtain ⟨record, found⟩ := Option.isSome_iff_exists.mp (stored realm List.mem_cons_self)
      have kept : ∀ other ∈ realms, ((draft.stage realm (some (record.update Field.blocks
          (.links ((record.links Field.blocks).filter (· != block)))))).get? other).isSome := by
        intro other member
        by_cases same : realm = other
        · simp [← same]
        · rw [Draft.get?_stage_of_ne draft _ same]
          exact stored other (List.mem_cons_of_mem _ member)
      obtain ⟨after, ran, base, counter, shown⟩ := induction _ kept
      refine ⟨after, ?_, base, counter, shown.trans ?_⟩
      · rw [removeEdit, Edit.run_bind_of_ok _ (Edit.run_links_of_present Field.blocks found),
          Edit.run_bind_of_ok _ (Edit.run_setLinks_of_present Field.blocks _ found), ran]
      · have present : draft.view realm = some record.unsignedZeros := by simp [Draft.view, found]
        rw [View.remove, View.remove, View.withdraw, View.withdraw, List.foldl_cons,
          Draft.view_stage, View.setBlocks, View.set, View.blocks, present]
        simp [Record.unsignedZeros_update]

/-- A block is always taken out of the lists that name it. -/
theorem update_removeEdit (cache : Cache) (block : RecordId) :
    let realms := cache.store.referrers block Field.blocks
    let written := cache.update (removeEdit block realms)
    written.1 = .ok () ∧ cache.Wrote written.2 (cache.store.records.view.remove block realms)
      cache.store.lastPending := by
  intro realms written
  have stored : ∀ realm ∈ realms, (cache.draft.get? realm).isSome := by
    intro realm member
    have present := (Store.mem_referrers.mp member).isSome
    simpa [Records.view] using present
  obtain ⟨draft, ran, base, counter, shown⟩ := run_removeEdit block realms cache.draft stored
  obtain ⟨done, wrote⟩ := Cache.wrote_of_ok ran base
  rw [shown, counter, Draft.view_start] at wrote
  exact ⟨done, wrote⟩

/-- A cancellation takes a block that was never saved out of every list, or switches its edit mode
off, or does nothing. -/
theorem cancel_cases (editor : Editor) (cache : Cache) (block : RecordId) (confirmed : Bool) :
    let view := cache.store.records.view
    let cancelled := editor.cancel cache block confirmed
    cancelled.2.1.dispatcher = editor.dispatcher ∧
      ((∃ realms, cancelled.1 = .ok .removed ∧ editor.dispatcher.isInFlight block = false ∧
        block.isPending ∧ (∀ id, view.LinksTo id Field.blocks block → id ∈ realms) ∧
        cache.Wrote cancelled.2.2 (view.remove block realms) cache.store.lastPending) ∨
      (cancelled.1 ≠ .ok .removed ∧ ∃ next, (next = view ∨ next = view.mark block false) ∧
        cache.Wrote cancelled.2.2 next cache.store.lastPending)) := by
  intro view cancelled
  simp only [cancelled, cancel]
  split
  · exact ⟨rfl, .inr ⟨by simp, view, .inl rfl, .refl cache⟩⟩
  split
  · exact ⟨rfl, .inr ⟨by simp, view, .inl rfl, .refl cache⟩⟩
  split
  · exact ⟨rfl, .inr ⟨by simp, view, .inl rfl, .refl cache⟩⟩
  split
  case isTrue free _ _ pending =>
    obtain ⟨done, wrote⟩ := update_removeEdit cache block
    rw [show cache.update _ = (_, _) from Prod.ext done rfl]
    exact ⟨rfl, .inl ⟨_, rfl, by simpa using free, pending,
      fun id linked => Store.mem_referrers.mpr linked, wrote⟩⟩
  case isFalse =>
    obtain ⟨wrote, same⟩ := setEditMode_wrote editor cache block false
    generalize editor.setEditMode cache block false = switched at wrote same ⊢
    obtain ⟨result, later, after⟩ := switched
    cases result with
    | error error => exact ⟨same, .inr ⟨by simp, _, .inr rfl, wrote⟩⟩
    | ok done => exact ⟨same, .inr ⟨by simp, _, .inr rfl, wrote⟩⟩

theorem submit_cases (editor : Editor) (store : Store) (block : RecordId) (values : BlockValues) :
    let submitted := editor.submit store block values
    (∃ error, submitted.1 = .error error ∧ submitted.2.dispatcher = editor.dispatcher) ∨
      ∃ request input, submitted.1 = .ok request ∧
        editor.dispatcher.dispatch store block input =
          .ok (request, submitted.2.dispatcher) := by
  intro submitted
  simp only [submitted, submit]
  split
  case h_1 errors _ => exact .inl ⟨_, rfl, rfl⟩
  case h_2 input _ =>
    cases sent : editor.dispatcher.dispatch store block input with
    | error error => exact .inl ⟨_, rfl, rfl⟩
    | ok handed => exact .inr ⟨handed.1, input, rfl, sent⟩

theorem dispatcher_failForm (editor : Editor) (block : RecordId) (error : ApiError) :
    (editor.failForm block error).dispatcher = editor.dispatcher := by
  rw [failForm]
  split <;> rfl

/-- The result of a submitted form goes to the dispatcher; a saved block leaves its edit mode. -/
theorem complete_of_ok {editor later : Editor} {cache after : Cache} {ticket : Nat}
    {result : ApiResult Json} {outcome : SaveOutcome}
    (completed : editor.complete cache ticket result = .ok (outcome, later, after)) :
    ∃ middle, editor.dispatcher.complete cache ticket result =
        .ok (outcome, later.dispatcher, middle) ∧
      ((∃ previous block, outcome = .saved previous block ∧
        middle.Wrote after (middle.store.records.view.mark block false)
          middle.store.lastPending) ∨
      ∃ block error, outcome = .failed block error ∧ after = middle) := by
  rw [complete] at completed
  cases finished : editor.dispatcher.complete cache ticket result with
  | error error => simp [finished] at completed
  | ok parts =>
      obtain ⟨became, dispatcher, middle⟩ := parts
      cases became with
      | saved previous block =>
          simp only [finished, Except.ok.injEq, Prod.mk.injEq] at completed
          obtain ⟨rfl, rfl, rfl⟩ := completed
          exact ⟨middle, rfl, .inl ⟨previous, block, rfl, wrote_editModeEdit middle block false⟩⟩
      | failed block error =>
          simp only [finished, Except.ok.injEq, Prod.mk.injEq] at completed
          obtain ⟨rfl, rfl, rfl⟩ := completed
          refine ⟨middle, ?_, .inr ⟨block, error, rfl, rfl⟩⟩
          rw [dispatcher_failForm]

end Editor

end RealmDesk
