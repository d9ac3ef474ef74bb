import RealmDesk.Proofs.Desk.Tended
import RealmDesk.Proofs.Editing.Forms
import RealmDesk.Proofs.Record.Slots
import RealmDesk.Proofs.Store.Landing

/-!
# Inserting a block

An insertion is one splice: the list of the realm becomes longer by the new block, which has the
next pending id, the record that its kind and the defaults give, and a clean form. It succeeds where
the realm is stored and the index is not behind the end of its list, and an insertion that is
refused changes nothing. Since the next pending id is not in use there is no other way to fail.
-/

namespace RealmDesk

/-- A stored realm has room for a block at an index. -/
structure Cache.Offers (cache : Cache) (realm : RecordId) (index : Nat) (found : Record) :
    Prop where
  /-- The realm is stored. -/
  stored : cache.read realm = some found
  /-- It is a realm. -/
  typed : found.typeTag = realmType
  /-- The index is at most the length of its list. -/
  within : index ≤ (found.links Field.blocks).length

namespace Editor

/-- Why an insertion into a realm is refused. -/
inductive Refusal (cache : Cache) (realm : RecordId) (index : Nat) : EditError → Prop where
  /-- No realm is stored under the id. -/
  | unknown (unknown : ∀ found, cache.read realm = some found → found.typeTag ≠ realmType) :
      Refusal cache realm index (.unknownRealm realm)
  /-- The index is behind the end of the list. -/
  | beyond {found : Record} (stored : cache.read realm = some found)
      (typed : found.typeTag = realmType) (beyond : (found.links Field.blocks).length < index) :
      Refusal cache realm index (.indexOutOfBounds index (found.links Field.blocks).length)

/-- All that an insertion of a block changes. -/
structure Spliced (editor : Editor) (cache : Cache) (realm : RecordId) (index : Nat)
    (kind : BlockKind) (defaults : FieldMap) (block : RecordId) (later : Editor) (after : Cache) :
    Prop where
  /-- The block has an id that no record had. -/
  fresh : cache.read block = none
  /-- The realm lists one block more, which stands at the index, and nothing else of it changes. -/
  listed : ∃ found changed, cache.read realm = some found ∧ after.read realm = some changed ∧
    (changed.links Field.blocks).length = (found.links Field.blocks).length + 1 ∧
    changed.links? Field.blocks = some ((found.links Field.blocks).take index ++
      block :: (found.links Field.blocks).drop index) ∧
    changed.typeTag = found.typeTag ∧
    ∀ field, field ≠ Field.blocks → changed.get? field = found.get? field
  /-- The record of the block has the type of the kind, the fields of the kind under the defaults,
  and the edit mode in any case. Its form is clean and shows the values of the record. -/
  recorded : ∃ record, after.read block = some record ∧ record.typeTag = kind.typeTag ∧
    (∀ field, record.get? field =
      if field = Field.editMode then some (.scalar (.bool true))
      else defaults[field]?.or kind.defaultFields[field]?) ∧
    later.form? block = some { values := .ofRecord kind record }
  /-- No other record changes. -/
  others : ∀ id, id ≠ realm → id ≠ block → after.read id = cache.read id
  /-- No other form changes. -/
  forms : ∀ other, other ≠ block → later.form? other = editor.form? other
  /-- The requests stay in flight. -/
  requests : later.dispatcher = editor.dispatcher
  /-- Nothing else of the store changes but the number of the latest pending id. -/
  rest : after.store = { cache.store with
    records := after.store.records, lastPending := cache.store.lastPending + 1 }

section Refused

variable {cache : Cache} {realm : RecordId} {index : Nat}

/-- An insertion that is refused leaves everything as it was. -/
theorem insert_of_refusal {error : EditError} (refusal : Refusal cache realm index error)
    (editor : Editor) (kind : BlockKind) (defaults : FieldMap) :
    editor.insert cache realm index kind defaults = (.error error, editor, cache) := by
  have ran : (insertEdit realm index (newRecord kind defaults)).run cache.draft =
      (.error error, cache.draft) := by
    rw [insertEdit, Edit.run_bind_of_ok _ (Edit.run_get? realm cache.draft), Draft.get?_start]
    cases refusal with
    | unknown unknown =>
        cases stored : cache.read realm with
        | none =>
            rw [show cache.store.records[realm]? = none from stored]
            rfl
        | some found =>
            rw [show cache.store.records[realm]? = some found from stored]
            dsimp only
            rw [if_pos (unknown found stored)]
            exact Edit.run_bind_of_error _ (Edit.run_throw _ _)
    | @beyond found stored typed beyond =>
        rw [show cache.store.records[realm]? = some found from stored]
        dsimp only
        rw [if_neg (not_not.mpr typed), if_pos beyond]
        exact Edit.run_bind_of_error _ (Edit.run_throw _ _)
  rw [insert, Cache.update_of_error ran rfl]

theorem exists_refusal (cache : Cache) (realm : RecordId) (index : Nat)
    (full : ∀ found, ¬cache.Offers realm index found) :
    ∃ error, Refusal cache realm index error := by
  by_cases known : ∃ found, cache.read realm = some found ∧ found.typeTag = realmType
  · obtain ⟨found, stored, typed⟩ := known
    have beyond : (found.links Field.blocks).length < index := by
      by_contra within
      exact full found ⟨stored, typed, Nat.le_of_not_lt within⟩
    exact ⟨_, .beyond stored typed beyond⟩
  · exact ⟨_, .unknown fun found stored typed => known ⟨found, stored, typed⟩⟩

/-- A block that was inserted found room. -/
theorem exists_offers_of_insert {editor : Editor} {kind : BlockKind} {defaults : FieldMap}
    {block : RecordId} (done : (editor.insert cache realm index kind defaults).1 = .ok block) :
    ∃ found, cache.Offers realm index found := by
  by_contra full
  obtain ⟨error, refusal⟩ := exists_refusal cache realm index
    fun found offers => full ⟨found, offers⟩
  rw [insert_of_refusal refusal editor kind defaults] at done
  cases done

end Refused

section Placed

variable {cache : Cache} {realm : RecordId} {index : Nat} {found : Record}

private theorem run_insertEdit_of_offers (offers : cache.Offers realm index found)
    (fresh : cache.read (.pending (cache.store.lastPending + 1)) = none) (record : Record) :
    let block := RecordId.pending (cache.store.lastPending + 1)
    ∃ draft, (insertEdit realm index record).run cache.draft = (.ok block, draft) ∧
      draft.base = cache.store.records ∧ draft.lastPending = cache.store.lastPending + 1 ∧
      draft.get? realm = some (found.set Field.blocks
        (.links ((found.links Field.blocks).insertIdx index block))) ∧
      draft.get? block = some record ∧
      ∀ id, id ≠ realm → id ≠ block → draft.get? id = cache.read id := by
  intro block
  have present : cache.draft.get? realm = some found := offers.stored
  have absent : cache.draft.get? (.pending (cache.draft.lastPending + 1)) = none := fresh
  have different : realm ≠ block := by
    rintro rfl
    exact Option.some_ne_none found (offers.stored.symm.trans fresh)
  refine ⟨_, run_insertEdit_of_fresh present offers.typed offers.within absent record, rfl, rfl,
    ?_, ?_, ?_⟩
  · rw [Draft.get?_stage_self, Record.update_links]
    rfl
  · rw [Draft.get?_stage_of_ne _ _ different]
    exact Draft.get?_stage_self ..
  · intro id notRealm notBlock
    rw [Draft.get?_stage_of_ne _ _ notRealm.symm]
    exact Draft.get?_stage_of_ne _ _ notBlock.symm

theorem read_insertEdit (offers : cache.Offers realm index found)
    (fresh : cache.read (.pending (cache.store.lastPending + 1)) = none) (record : Record) :
    let block := RecordId.pending (cache.store.lastPending + 1)
    let inserted := cache.update (insertEdit realm index record)
    inserted.1 = .ok block ∧
      inserted.2.read realm = some (found.set Field.blocks
        (.links ((found.links Field.blocks).insertIdx index block))) ∧
      inserted.2.read block = some record ∧
      (∀ id, id ≠ realm → id ≠ block → inserted.2.read id = cache.read id) ∧
      inserted.2.store = { cache.store with
        records := inserted.2.store.records, lastPending := cache.store.lastPending + 1 } := by
  intro block inserted
  obtain ⟨draft, ran, base, counted, realmDrafted, blockDrafted, othersDrafted⟩ :=
    run_insertEdit_of_offers offers fresh record
  obtain ⟨done, wrote⟩ := Cache.wrote_of_ok ran base
  refine ⟨done, ?_, ?_, ?_, counted ▸ wrote.rest⟩
  · apply Cache.read_update_of_links ran base Field.blocks offers.stored realmDrafted
    intro same
    have longer := List.length_insertIdx_of_le_length offers.within block
    rw [Record.links_set_self] at same
    rw [same] at longer
    omega
  · refine (Cache.read_update_of_isSome_ne ran base ?_).trans blockDrafted
    rw [blockDrafted, fresh]
    simp
  · intro id notRealm notBlock
    exact Cache.read_update_of_left ran base (othersDrafted id notRealm notBlock)

/-- An insertion that is not refused opens the form of the new block. -/
theorem insert_of_offers (offers : cache.Offers realm index found)
    (fresh : cache.read (.pending (cache.store.lastPending + 1)) = none) (editor : Editor)
    (kind : BlockKind) (defaults : FieldMap) :
    let block := RecordId.pending (cache.store.lastPending + 1)
    let record := newRecord kind defaults
    editor.insert cache realm index kind defaults =
      (.ok block, editor.setForm block { values := .ofRecord kind record },
        (cache.update (insertEdit realm index record)).2) := by
  intro block record
  have done := (read_insertEdit offers fresh record).1
  rw [insert, show cache.update _ = (_, _) from Prod.ext done rfl]

/-- Where there is room for a block, and the next pending id is not in use, the block is spliced
into the list. -/
theorem spliced_of_offers (offers : cache.Offers realm index found)
    (fresh : cache.read (.pending (cache.store.lastPending + 1)) = none) (editor : Editor)
    (kind : BlockKind) (defaults : FieldMap) :
    let block := RecordId.pending (cache.store.lastPending + 1)
    let inserted := editor.insert cache realm index kind defaults
    inserted.1 = .ok block ∧
      editor.Spliced cache realm index kind defaults block inserted.2.1 inserted.2.2 := by
  intro block inserted
  obtain ⟨-, realmRead, blockRead, others, rest⟩ :=
    read_insertEdit offers fresh (newRecord kind defaults)
  simp only [inserted]
  rw [insert_of_offers offers fresh editor kind defaults]
  refine ⟨rfl, ?_⟩
  constructor
  case fresh => exact fresh
  case listed =>
    refine ⟨found, _, offers.stored, realmRead, ?_, ?_, rfl, ?_⟩
    · rw [Record.links_set_self, List.length_insertIdx_of_le_length offers.within]
    · rw [Record.links?_set_self, insertIdx_eq_take_append_cons_drop offers.within]
    · exact fun field other => Record.get?_set_of_ne found _ other
  case recorded =>
    refine ⟨_, blockRead, typeTag_newRecord kind defaults, get?_newRecord kind defaults, ?_⟩
    rw [form?_setForm, if_pos rfl]
  case others => exact others
  case forms =>
    intro other different
    rw [form?_setForm, if_neg different.symm]
  case requests => rfl
  case rest => exact rest

end Placed

end Editor

namespace Desk

/-- In a session the next pending id is not in use. -/
theorem unused_run {table : RouteTable} {events : List Event}
    (session : ∀ event ∈ events, event.InSession fun _ => True) :
    let desk := (start table).run events
    desk.cache.read (.pending (desk.cache.store.lastPending + 1)) = none := by
  intro desk
  have tended : desk.Tended (.persisted "") :=
    (tended_start table (.persisted "")).turns (turns_run session _)
  by_contra present
  have bound := tended.stored (desk.cache.store.lastPending + 1)
    (Records.isSome_view.mpr (Std.ExtTreeMap.mem_iff_isSome_getElem?.mpr
      (Option.isSome_iff_ne_none.mpr present)))
  omega

/-- In every session a block can be inserted exactly where a stored realm has room for it. It is
spliced into the list of the realm and changes nothing else; an insertion that is refused changes
nothing and names the realm that is missing, or the index that is behind the end of the list. -/
theorem insert_splices {table : RouteTable} {events : List Event}
    (session : ∀ event ∈ events, event.InSession fun _ => True) (realm : RecordId) (index : Nat)
    (kind : BlockKind) (defaults : FieldMap) :
    let desk := (start table).run events
    let inserted := desk.editor.insert desk.cache realm index kind defaults
    ((∃ block, inserted.1 = .ok block) ↔ ∃ found, desk.cache.Offers realm index found) ∧
      (∀ block, inserted.1 = .ok block → desk.editor.Spliced desk.cache realm index kind defaults
        block inserted.2.1 inserted.2.2) ∧
      ∀ error, inserted.1 = .error error →
        inserted.2 = (desk.editor, desk.cache) ∧
          Editor.Refusal desk.cache realm index error := by
  intro desk inserted
  have splices {found : Record} (offers : desk.cache.Offers realm index found) :=
    Editor.spliced_of_offers offers (unused_run session) desk.editor kind defaults
  refine ⟨⟨?_, ?_⟩, ?_, ?_⟩
  · rintro ⟨block, done⟩
    exact Editor.exists_offers_of_insert done
  · rintro ⟨found, offers⟩
    exact ⟨_, (splices offers).1⟩
  · intro block done
    obtain ⟨found, offers⟩ := Editor.exists_offers_of_insert done
    obtain ⟨next, spliced⟩ := splices offers
    obtain rfl := Except.ok.inj (next.symm.trans done)
    exact spliced
  · intro error failed
    obtain ⟨reason, refusal⟩ := Editor.exists_refusal desk.cache realm index <| by
      intro found offers
      cases failed.symm.trans (splices offers).1
    have refused : inserted = (.error reason, desk.editor, desk.cache) :=
      Editor.insert_of_refusal refusal desk.editor kind defaults
    rw [refused] at failed ⊢
    obtain rfl := Except.error.inj failed
    exact ⟨rfl, refusal⟩

/-- A block is inserted between a saved block and a new one, with defaults that would switch its
edit mode off. -/
theorem insert_splices_between :
    let answer : Json := .obj [("realm", .obj [("id", .str "r"), ("__typename", .str "Realm"),
      ("blocks", .arr [.obj [("id", .str "b"), ("__typename", .str "TitleBlock")]])])]
    let events : List Event := [.navigate (Place.realmContent "/").url, .resolve 1 (.ok answer),
      .insert (.persisted "r") 1 .title ∅]
    let desk := (start .standard).run events
    let defaults : FieldMap := .ofList [(Field.content, .scalar (.str "x")),
      (Field.editMode, .scalar (.bool false))]
    let inserted := desk.editor.insert desk.cache (.persisted "r") 1 .text defaults
    (∀ event ∈ events, event.InSession fun _ => True) ∧
      ∃ found block, desk.cache.Offers (.persisted "r") 1 found ∧ inserted.1 = .ok block ∧
        desk.editor.Spliced desk.cache (.persisted "r") 1 .text defaults block inserted.2.1
          inserted.2.2 := by
  intro answer events desk defaults inserted
  have session : ∀ event ∈ events, event.InSession fun _ => True := by
    simp [events, Event.InSession]
  let found : Record := ⟨"Realm", .ofList [
    (Field.blocks, .links [.persisted "b", .pending 1])]⟩
  have offers : desk.cache.Offers (.persisted "r") 1 found :=
    ⟨by decide +kernel, rfl, by decide +kernel⟩
  obtain ⟨succeeds, splices, -⟩ := insert_splices session (.persisted "r") 1 .text defaults
  obtain ⟨block, done⟩ := succeeds.mpr ⟨found, offers⟩
  exact ⟨session, found, block, offers, done, splices block done⟩

end Desk

end RealmDesk
