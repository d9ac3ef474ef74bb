import RealmDesk.Proofs.Desk.Answers
import RealmDesk.Proofs.Desk.Insertion
import RealmDesk.Proofs.Desk.Unsaved

/-!
# Cancelling a new block

The insertion of a block is undone when its edit is cancelled, whatever was done to the block in
between, as long as it was not saved. Its own record can differ in the edit mode only, no other
record has changed, and the realm is the only one that lists it, at the one place at which it was
inserted. An insertion finds this place by an index and the cancellation by the id, so what comes to
the same is that the id was in no list before.
-/

namespace RealmDesk

/-- A record is an earlier one whose edit mode may have been switched. -/
structure Record.Switched (record earlier : Record) : Prop where
  /-- The type is the same. -/
  tag : record.typeTag = earlier.typeTag
  /-- All other fields are the same. -/
  fields : ∀ field, field ≠ Field.editMode → record.get? field = earlier.get? field

namespace Record

variable {record earlier : Record}

theorem Switched.refl (record : Record) : record.Switched record :=
  ⟨rfl, fun _ _ => rfl⟩

theorem Switched.set (switched : record.Switched earlier) (value : FieldValue) :
    (record.set Field.editMode value).Switched earlier := by
  refine ⟨switched.tag, fun field other => ?_⟩
  rw [get?_set_of_ne record value other, switched.fields field other]

theorem Switched.ofRecord_eq (switched : record.Switched earlier) (kind : BlockKind) :
    BlockValues.ofRecord kind record = BlockValues.ofRecord kind earlier := by
  cases kind with
  | title | text =>
      simp only [BlockValues.ofRecord, str?, switched.fields Field.content (by decide)]
  | series =>
      simp only [BlockValues.ofRecord, BlockValues.linkedId?, str?, bool?,
        switched.fields Field.series (by decide), switched.fields Field.order (by decide),
        switched.fields Field.showTitle (by decide), switched.fields Field.showMetadata (by decide)]
  | video =>
      simp only [BlockValues.ofRecord, BlockValues.linkedId?, bool?,
        switched.fields Field.event (by decide), switched.fields Field.showTitle (by decide)]

theorem Switched.linksTo (switched : record.Switched earlier) {field : String} {target : RecordId}
    (other : field ≠ Field.editMode) (linked : record.LinksTo field target) :
    earlier.LinksTo field target := by
  obtain ⟨value, named, member⟩ := linked
  exact ⟨value, by rw [← switched.fields field other, named], member⟩

end Record

namespace Editor

variable {cache : Cache} {realm block : RecordId} {record earlier listing : Record}

theorem read_setEditMode (editor : Editor) (stored : cache.read block = some record)
    (switched : record.Switched earlier) (on : Bool) :
    let after := (editor.setEditMode cache block on).2.2
    (∃ marked, after.read block = some marked ∧ marked.Switched earlier) ∧
      ∀ id, id ≠ block → after.read id = cache.read id := by
  have present : cache.draft.get? block = some record := (Draft.get?_start ..).trans stored
  have ran := Edit.run_setField_of_present Field.editMode (.scalar (.bool on)) present
  have done := (Cache.wrote_of_ok ran rfl).1
  rw [setEditMode, stored]
  dsimp only
  rw [editModeEdit, show cache.update _ = (_, _) from Prod.ext done rfl]
  constructor
  · dsimp only
    rw [Cache.read_update_of_ok ran rfl, Draft.get?_stage_self, Record.update_bool]
    split
    · exact ⟨record, stored, switched⟩
    · exact ⟨_, rfl, switched.set _⟩
  · intro id different
    apply Cache.read_update_of_left ran rfl
    rw [Draft.get?_stage_of_ne _ _ different.symm, Draft.get?_start]
    rfl

/-- The removal of a block that one realm lists changes the list of this realm only. -/
theorem read_removeEdit (stored : cache.read realm = some listing)
    (listed : block ∈ listing.links Field.blocks) (present : (cache.read block).isSome)
    (different : realm ≠ block) :
    let removed := cache.update (removeEdit block [realm])
    removed.1 = .ok () ∧
      removed.2.read realm = some (listing.set Field.blocks
        (.links ((listing.links Field.blocks).filter (· != block)))) ∧
      removed.2.read block = none ∧
      ∀ id, id ≠ realm → id ≠ block → removed.2.read id = cache.read id := by
  intro removed
  have found : cache.draft.get? realm = some listing := (Draft.get?_start ..).trans stored
  have ran : (removeEdit block [realm]).run cache.draft =
      (.ok (), (cache.draft.stage realm (some (listing.set Field.blocks
        (.links ((listing.links Field.blocks).filter (· != block)))))).stage block none) := by
    rw [removeEdit, Edit.run_bind_of_ok _ (Edit.run_links_of_present Field.blocks found),
      Edit.run_bind_of_ok _ (Edit.run_setLinks_of_present Field.blocks _ found),
      Record.update_links]
    rfl
  refine ⟨(Cache.wrote_of_ok ran rfl).1, ?_, ?_, ?_⟩
  · apply Cache.read_update_of_links ran rfl Field.blocks stored
    · rw [Draft.get?_stage_of_ne _ _ different.symm, Draft.get?_stage_self]
    · intro same
      rw [Record.links_set_self] at same
      rw [← same] at listed
      simp at listed
  · refine (Cache.read_update_of_isSome_ne ran rfl ?_).trans (Draft.get?_stage_self ..)
    rw [Draft.get?_stage_self, present]
    simp
  · intro id notRealm notBlock
    apply Cache.read_update_of_left ran rfl
    rw [Draft.get?_stage_of_ne _ _ notBlock.symm, Draft.get?_stage_of_ne _ _ notRealm.symm,
      Draft.get?_start]
    rfl

/-- A new block that is not being saved is removed by its cancellation, with the user's consent
where its form is dirty. -/
theorem cancel_of_unsaved {editor : Editor} {confirmed : Bool}
    (idle : editor.dispatcher.isInFlight block = false) (stored : cache.read block = some record)
    (agreed : (editor.form? block).any (·.dirty) = true → confirmed = true)
    (unsaved : block.isPending) {realms : List RecordId}
    (referrers : cache.store.referrers block Field.blocks = realms)
    (done : (cache.update (removeEdit block realms)).1 = .ok ()) :
    editor.cancel cache block confirmed =
      (.ok .removed, editor.dropForm block, (cache.update (removeEdit block realms)).2) := by
  have present : cache.store.contains block = true :=
    Std.ExtTreeMap.mem_iff_isSome_getElem?.mpr (Option.isSome_of_eq_some stored)
  have heeded : ((editor.form? block).any (·.dirty) && !confirmed) = false := by
    cases dirty : (editor.form? block).any (·.dirty) with
    | false => rfl
    | true => rw [agreed dirty]; rfl
  simp only [cancel, idle, present, heeded, unsaved, referrers]
  rw [show cache.update _ = (_, _) from Prod.ext done rfl]
  rfl

end Editor

theorem Record.mem_links_set_insertIdx (record : Record) (field : String) {ids : List RecordId}
    {index : Nat} (within : index ≤ ids.length) (id : RecordId) :
    id ∈ (record.set field (.links (ids.insertIdx index id))).links field := by
  rw [Record.links_set_self, List.mem_insertIdx within]
  exact .inl rfl

/-- A block that one record links to has this record as its only referrer. -/
theorem Store.referrers_eq_singleton {store : Store} {realm block : RecordId} {field : String}
    (linked : store.records.view.LinksTo realm field block)
    (alone : ∀ id, store.records.view.LinksTo id field block → id = realm) :
    store.referrers block field = [realm] := by
  have distinct : (store.referrers block field).Nodup := by
    rw [referrers, List.nodup_iff_pairwise_ne]
    exact List.pairwise_map.mpr ((pairwise_ne_toList store.records).filter _)
  have members (id : RecordId) : id ∈ store.referrers block field ↔ id ∈ [realm] := by
    rw [mem_referrers, List.mem_singleton]
    constructor
    · exact alone id
    · rintro rfl
      exact linked
  exact List.perm_singleton.mp
    ((List.perm_ext_iff_of_nodup distinct (by simp)).mpr members)

namespace Desk

/-! ## Editing a new block -/

/-- The block that was not saved, if that is what an event comes to. -/
def Outcome.failed? : Outcome → Option RecordId
  | .completed (.ok (.failed block _)) => some block
  | _ => none

/-- An event that is about one block only and does not save it: its form or its edit mode changes,
or it is sent, or a request for it fails. -/
def Concerns (block : RecordId) (desk : Desk) : Event → Prop
  | .setEditMode other _ | .updateForm other _ | .submit other _ | .dispatch other _ =>
      other = block
  | .complete ticket result => (desk.step (.complete ticket result)).1.failed? = some block
  | .finish ticket result => (desk.step (.finish ticket result)).1.failed? = some block
  | _ => False

instance (block : RecordId) (desk : Desk) : (event : Event) → Decidable (Concerns block desk event)
  | .setEditMode _ _ | .updateForm _ _ | .submit _ _ | .dispatch _ _ | .complete _ _
  | .finish _ _ => inferInstanceAs (Decidable (_ = _))
  | .navigate _ | .reload | .resolve _ _ | .insert _ _ _ _ | .cancel _ _ | .prune | .addChild _
  | .merge _ | .update _ | .subscribe _ _ | .unsubscribe _ | .retain _ | .release _
  | .collectGarbage => .isFalse id

/-- A desk differs from an earlier one in a new block only, which a realm lists. -/
structure Unfinished (before : Desk) (realm block : RecordId) (listing first : Record)
    (desk : Desk) : Prop where
  /-- The realm lists the block. -/
  lists : desk.cache.read realm = some listing
  /-- The block has the record it had first, but for the edit mode. -/
  made : ∃ record, desk.cache.read block = some record ∧ record.Switched first
  /-- No other record has changed. -/
  others : ∀ id, id ≠ realm → id ≠ block → desk.cache.read id = before.cache.read id
  /-- No other form has changed. -/
  forms : ∀ other, other ≠ block → desk.editor.form? other = before.editor.form? other

variable {before desk : Desk} {realm block : RecordId} {listing first : Record} {kind : BlockKind}
  {event : Event}

theorem form?_of_concerns (concerns : Concerns block desk event) {other : RecordId}
    (different : other ≠ block) :
    (desk.step event).2.editor.form? other = desk.editor.form? other := by
  have handled := desk.handled event
  generalize told : (desk.step event).1 = outcome at handled
  generalize (desk.step event).2.editor = editor at handled ⊢
  cases handled with
  | kept => rfl
  | opened | typed | refused =>
      obtain rfl := concerns
      rw [Editor.form?_setForm, if_neg different.symm]
  | sent =>
      obtain rfl := concerns
      rw [Editor.form?_setForm, if_neg different.symm]
      rfl
  | left =>
      obtain rfl := concerns
      rw [Editor.form?_dropForm, if_neg different.symm]
  | failed ticket result request error =>
      rw [Concerns, told] at concerns
      obtain rfl := Option.some.inj concerns
      rw [Editor.form?_failForm, if_neg different.symm]
      rfl
  | saved =>
      rw [Concerns, told] at concerns
      cases concerns
  | inserted | cancelled | pruned => exact concerns.elim

theorem cache_of_concerns (concerns : Concerns block desk event)
    (other : ∀ block on, event ≠ .setEditMode block on) :
    (desk.step event).2.cache = desk.cache := by
  cases event with
  | setEditMode block on => exact absurd rfl (other block on)
  | updateForm block values =>
      simp only [step]
      split <;> rfl
  | submit block values => rfl
  | dispatch block input =>
      simp only [step]
      split <;> rfl
  | complete ticket result =>
      rw [Concerns] at concerns
      cases completed : desk.editor.complete desk.cache ticket result with
      | error error => simp only [step, completed]
      | ok parts =>
          obtain ⟨outcome, editor, cache⟩ := parts
          simp only [step, completed] at concerns ⊢
          obtain ⟨middle, finished, ⟨previous, saved, rfl, -⟩ | ⟨failed, error, rfl, rfl⟩⟩ :=
            Editor.complete_of_ok completed
          · cases concerns
          · exact Dispatcher.cache_of_failed finished
  | finish ticket result =>
      rw [Concerns] at concerns
      cases completed : desk.dispatcher.complete desk.cache ticket result with
      | error error => simp only [step, completed]
      | ok parts =>
          obtain ⟨outcome, dispatcher, cache⟩ := parts
          simp only [step, completed] at concerns ⊢
          cases outcome with
          | saved => cases concerns
          | failed => exact Dispatcher.cache_of_failed completed
  | _ => exact concerns.elim

namespace Unfinished

theorem step (unfinished : Unfinished before realm block listing first desk)
    (different : realm ≠ block) (concerns : Concerns block desk event) :
    Unfinished before realm block listing first (desk.step event).2 := by
  have forms (other : RecordId) (apart : other ≠ block) :=
    (form?_of_concerns concerns apart).trans (unfinished.forms other apart)
  by_cases switches : ∃ on, event = .setEditMode block on
  · obtain ⟨on, rfl⟩ := switches
    obtain ⟨record, stored, switched⟩ := unfinished.made
    obtain ⟨marked, others⟩ := desk.editor.read_setEditMode stored switched on
    exact ⟨(others realm different).trans unfinished.lists, marked,
      fun id notRealm notBlock => (others id notBlock).trans
        (unfinished.others id notRealm notBlock), forms⟩
  · have same : (desk.step event).2.cache = desk.cache := by
      refine cache_of_concerns concerns fun other on equal => ?_
      subst equal
      exact switches ⟨on, by rw [show other = block from concerns]⟩
    refine ⟨?_, ?_, ?_, forms⟩ <;> rw [same]
    · exact unfinished.lists
    · exact unfinished.made
    · exact unfinished.others

theorem run (unfinished : Unfinished before realm block listing first desk)
    (different : realm ≠ block) {events : List Event}
    (concerns : desk.Along (Concerns block) events) :
    Unfinished before realm block listing first (desk.run events) := by
  induction events generalizing desk with
  | nil => exact unfinished
  | cons event events induction =>
      exact induction (unfinished.step different concerns.1) concerns.2

end Unfinished

/-- The form of a block, if there is one, is clean and shows the values of a record. -/
def Untouched (block : RecordId) (values : BlockValues) (desk : Desk) : Prop :=
  ∀ form, desk.editor.form? block = some form → form.values = values ∧ form.dirty = false

namespace Untouched

/-- A form to which its own values are handed in stays clean. -/
theorem step (untouched : desk.Untouched block (.ofRecord kind first))
    (unfinished : Unfinished before realm block listing first desk)
    (typed : first.blockKind? = some kind) (concerns : Concerns block desk event)
    (same : ∀ values, event.handed? block = some values → values = .ofRecord kind first) :
    (desk.step event).2.Untouched block (.ofRecord kind first) := by
  intro form present
  have retyped {old : BlockForm} {values : BlockValues} (clean : old.values = values)
      (handed : values = .ofRecord kind first) (tidy : old.dirty = false) :
      (old.type values).values = .ofRecord kind first ∧ (old.type values).dirty = false := by
    rw [BlockForm.type, if_pos clean]
    exact ⟨clean.trans handed, tidy⟩
  have fate := desk.fate block event
  rw [present] at fate
  generalize (desk.step event).1 = outcome at fate
  generalize after : some form = after at fate
  cases fate with
  | spared _ ignored kept =>
      rw [← after, Option.map_some, eq_comm, Option.map_eq_some_iff] at kept
      obtain ⟨old, standing, alike⟩ := kept
      obtain ⟨values, dirty⟩ := Prod.mk.inj alike
      rw [← values, ← dirty]
      exact untouched old standing
  | opened record own outcome stored shown formless =>
      obtain ⟨marked, standing, switched⟩ := unfinished.made
      obtain rfl := Option.some.inj (stored.symm.trans standing)
      have sameKind : own = kind := by
        rw [Record.blockKind?, switched.tag] at shown
        exact Option.some.inj (shown.symm.trans typed)
      obtain rfl := Option.some.inj after
      rw [sameKind, switched.ofRecord_eq kind]
      exact ⟨rfl, rfl⟩
  | typed values old outcome standing =>
      obtain rfl := Option.some.inj after
      obtain ⟨clean, tidy⟩ := untouched old standing
      have handed := same values (by simp [Event.handed?])
      exact retyped (clean.trans handed.symm) handed tidy
  | submitted values outcome later kept =>
      obtain rfl := Option.some.inj after
      obtain ⟨sameValues, sameDirty⟩ := Prod.mk.inj kept
      have handed := same values (by simp [Event.handed?])
      rw [sameValues, sameDirty, Editor.submittedForm]
      cases standing : desk.editor.form? block with
      | none => exact retyped rfl handed rfl
      | some old =>
          obtain ⟨clean, tidy⟩ := untouched old standing
          exact retyped (clean.trans handed.symm) handed tidy
  | inserted => exact concerns.elim
  | left | cancelled | pruned | saved => cases after

theorem run (untouched : desk.Untouched block (.ofRecord kind first))
    (unfinished : Unfinished before realm block listing first desk) (different : realm ≠ block)
    (typed : first.blockKind? = some kind) {events : List Event}
    (concerns : desk.Along (Concerns block) events)
    (same : ∀ event ∈ events, ∀ values, event.handed? block = some values →
      values = .ofRecord kind first) :
    (desk.run events).Untouched block (.ofRecord kind first) := by
  induction events generalizing desk with
  | nil => exact untouched
  | cons event events induction =>
      exact induction
        (untouched.step unfinished typed concerns.1 (same event List.mem_cons_self))
        (unfinished.step different concerns.1) concerns.2
        fun later member => same later (List.mem_cons_of_mem _ member)

end Untouched

/-! ## Undoing an insertion -/

/-- A cancellation took a block back: the records are those of an earlier desk, and so are the
forms of all other blocks. -/
structure Undone (before : Desk) (block : RecordId) (cancelled : Outcome × Desk) : Prop where
  /-- The block was removed. -/
  removed : cancelled.1 = .cancelled (.ok .removed)
  /-- Every record is as it was, and no other one is there. -/
  records : cancelled.2.cache.store.records = before.cache.store.records
  /-- No record lists the block, or links to it otherwise. -/
  unlinked : ∀ id record, cancelled.2.cache.read id = some record → block ∉ record.targets
  /-- The block has no form. -/
  formless : cancelled.2.editor.form? block = none
  /-- All other forms are as they were. -/
  forms : ∀ other, other ≠ block → cancelled.2.editor.form? other = before.editor.form? other

section Undoing

variable {found : Record} {ids : List RecordId} {index : Nat}

/-- The realm into which a new block was inserted is the only record that lists it. -/
theorem Unfinished.referrers_eq
    (unfinished : Unfinished before realm block listing first desk)
    (listed : block ∈ listing.links Field.blocks)
    (unlinked : ∀ id record, before.cache.read id = some record → block ∉ record.targets)
    (selfless : ∀ field, ¬first.LinksTo field block) :
    desk.cache.store.referrers block Field.blocks = [realm] := by
  have shown {id : RecordId} {record : Record} (stored : desk.cache.read id = some record) :
      desk.view id = some record.unsignedZeros := (blocks_eq_links stored).1
  refine Store.referrers_eq_singleton ?_ ?_
  · exact ⟨_, shown unfinished.lists,
      Record.linksTo_unsignedZeros.mpr (Record.linksTo_of_mem_links listed)⟩
  · rintro id ⟨shownRecord, present, linked⟩
    obtain ⟨record, stored, rfl⟩ := Option.map_eq_some_iff.mp present
    have linked := Record.linksTo_unsignedZeros.mp linked
    by_contra notRealm
    by_cases own : id = block
    · obtain ⟨marked, standing, switched⟩ := unfinished.made
      obtain rfl := Option.some.inj ((own ▸ stored).symm.trans standing)
      exact selfless Field.blocks (switched.linksTo (by decide) linked)
    · have old := (unfinished.others id notRealm own).symm.trans stored
      exact unlinked id record old (Record.mem_targets.mpr ⟨_, linked⟩)

section Removed

variable
  (unfinished : Unfinished before realm block
    (found.set Field.blocks (.links (ids.insertIdx index block))) first desk)
  (stored : before.cache.read realm = some found)
  (named : found.get? Field.blocks = some (.links ids)) (within : index ≤ ids.length)
  (fresh : before.cache.read block = none)
  (unlinked : ∀ id record, before.cache.read id = some record → block ∉ record.targets)
include unfinished stored named within fresh unlinked

/-- The removal of an unfinished block from the list of its realm leads back to the records that
were there before it. -/
theorem Unfinished.records_removed :
    let removed := desk.cache.update (Editor.removeEdit block [realm])
    removed.1 = .ok () ∧ removed.2.store.records = before.cache.store.records := by
  intro removed
  have different : realm ≠ block := by
    rintro rfl
    exact Option.some_ne_none found (stored.symm.trans fresh)
  have unlisted : block ∉ ids := fun listed =>
    unlinked realm found stored (Record.mem_targets.mpr ⟨_, _, named, listed⟩)
  have listed := found.mem_links_set_insertIdx Field.blocks within block
  obtain ⟨record, made, -⟩ := unfinished.made
  obtain ⟨done, realmRead, blockRead, othersRead⟩ :=
    Editor.read_removeEdit unfinished.lists listed (Option.isSome_of_eq_some made) different
  -- The filter takes out the one slot that the insertion put in.
  rw [Record.links_set_self, filter_ne_insertIdx within unlisted,
    Record.set_set_of_get? named] at realmRead
  refine ⟨done, Std.ExtTreeMap.ext_getElem? fun id => ?_⟩
  by_cases isRealm : id = realm
  · rw [isRealm]
    exact realmRead.trans stored.symm
  · by_cases isBlock : id = block
    · rw [isBlock]
      exact blockRead.trans fresh.symm
    · exact (othersRead id isRealm isBlock).trans (unfinished.others id isRealm isBlock)

/-- A new block that was edited and not saved is taken back by its cancellation. -/
theorem Unfinished.undone (selfless : ∀ field, ¬first.LinksTo field block)
    (unsaved : block.isPending) (idle : desk.editor.dispatcher.isInFlight block = false)
    {confirmed : Bool}
    (agreed : (desk.editor.form? block).any (·.dirty) = true → confirmed = true) :
    Undone before block (desk.step (.cancel block confirmed)) := by
  have listed := found.mem_links_set_insertIdx Field.blocks within block
  obtain ⟨record, made, -⟩ := unfinished.made
  obtain ⟨done, records⟩ := unfinished.records_removed stored named within fresh unlinked
  have stepped : desk.step (.cancel block confirmed) = (.cancelled (.ok .removed),
      { desk with
        editor := desk.editor.dropForm block
        cache := (desk.cache.update (Editor.removeEdit block [realm])).2 }) := by
    rw [Desk.step, Editor.cancel_of_unsaved idle made agreed unsaved
      (unfinished.referrers_eq listed unlinked selfless) done]
  rw [stepped]
  constructor
  case removed => rfl
  case records => exact records
  case unlinked =>
    intro id other standing
    refine unlinked id other ?_
    rw [Cache.read, Store.read, ← records]
    exact standing
  case formless => exact (desk.editor.form?_dropForm block block).trans (if_pos rfl)
  case forms =>
    intro other apart
    refine (desk.editor.form?_dropForm block other).trans ((if_neg apart.symm).trans ?_)
    exact unfinished.forms other apart

end Removed

end Undoing

/-- A block that was just inserted is unfinished, and its form is clean. -/
theorem unfinished_of_inserted {index : Nat} {found : Record} {defaults : FieldMap}
    (stored : before.cache.read realm = some found)
    (fresh : before.cache.read (.pending (before.cache.store.lastPending + 1)) = none)
    (inserted : (before.step (.insert realm index kind defaults)).1 = .inserted (.ok block)) :
    index ≤ (found.links Field.blocks).length ∧
      Unfinished before realm block
        (found.set Field.blocks (.links ((found.links Field.blocks).insertIdx index block)))
        (Editor.newRecord kind defaults) (before.step (.insert realm index kind defaults)).2 ∧
      (before.step (.insert realm index kind defaults)).2.Untouched block
        (.ofRecord kind (Editor.newRecord kind defaults)) := by
  obtain ⟨rfl, -⟩ := inserted_of_step inserted
  have done : (before.editor.insert before.cache realm index kind defaults).1 =
      .ok (.pending (before.cache.store.lastPending + 1)) := Outcome.inserted.inj inserted
  obtain ⟨room, offers⟩ := Editor.exists_offers_of_insert done
  obtain rfl := Option.some.inj (offers.stored.symm.trans stored)
  obtain ⟨-, realmRead, blockRead, othersRead, -⟩ :=
    Editor.read_insertEdit offers fresh (Editor.newRecord kind defaults)
  have placed := Editor.insert_of_offers offers fresh before.editor kind defaults
  have form (other : RecordId) :
      (before.step (.insert realm index kind defaults)).2.editor.form? other =
        if .pending (before.cache.store.lastPending + 1) = other then
          some { values := .ofRecord kind (Editor.newRecord kind defaults) }
        else before.editor.form? other := by
    simp only [step, placed]
    exact Editor.form?_setForm ..
  have cache : (before.step (.insert realm index kind defaults)).2.cache =
      (before.cache.update
        (Editor.insertEdit realm index (Editor.newRecord kind defaults))).2 := by
    simp only [step, placed]
  refine ⟨offers.within, ⟨?_, ?_, ?_, ?_⟩, ?_⟩
  · rw [cache]
    exact realmRead
  · rw [cache]
    exact ⟨_, blockRead, .refl _⟩
  · rw [cache]
    exact othersRead
  · intro other different
    rw [form, if_neg different.symm]
  · intro opened present
    rw [form, if_pos rfl] at present
    obtain rfl := Option.some.inj present
    exact ⟨rfl, rfl⟩

/-- Cancelling a new block undoes its insertion. Whatever was done to the block in between, as long
as it was not saved and is not being saved, the records are afterwards what they were before it was
inserted, nothing links to the block, and the forms of all other blocks are what they were. The user
does not have to confirm this if no values were handed in for the block but those that it was
inserted with. -/
theorem cancel_undoes_insert (table : RouteTable) {events : List Event}
    (session : ∀ event ∈ events, event.InSession FieldMap.Unlinked) (realm : RecordId)
    (index : Nat) (kind : BlockKind) {defaults : FieldMap} (plain : defaults.Unlinked) :
    let before := (start table).run events
    let opened := before.step (.insert realm index kind defaults)
    ∀ found ids block, before.cache.read realm = some found →
      found.get? Field.blocks = some (.links ids) → opened.1 = .inserted (.ok block) →
      ∀ edits, opened.2.Along (Concerns block) edits →
        let edited := opened.2.run edits
        edited.editor.dispatcher.isInFlight block = false →
          Undone before block (edited.step (.cancel block true)) ∧
          ((∀ edit ∈ edits, ∀ values, edit.handed? block = some values →
              values = .ofRecord kind (Editor.newRecord kind defaults)) →
            Undone before block (edited.step (.cancel block false))) := by
  intro before opened found ids block stored named inserted edits concerns edited idle
  have numbered : before.Numbered ((start table).trace events) :=
    (Numbered.start table).run session
  obtain ⟨fresh, unlinked, -⟩ := numbered.unused
  obtain ⟨within, unfinished, untouched⟩ := unfinished_of_inserted stored fresh inserted
  obtain ⟨next, -⟩ := inserted_of_step inserted
  rw [← next] at fresh unlinked
  have list : found.links Field.blocks = ids := by
    rw [Record.links, Record.links?, named]
    rfl
  rw [list] at within unfinished
  have different : realm ≠ block := by
    rintro rfl
    exact Option.some_ne_none found (stored.symm.trans fresh)
  have selfless (field : String) :
      ¬(Editor.newRecord kind defaults).LinksTo field block := fun linked =>
    Editor.not_linksTo_newRecord plain field block (Record.linksTo_unsignedZeros.mpr linked)
  have unsaved : block.isPending := by
    rw [next]
    rfl
  have undone {confirmed : Bool}
      (agreed : (edited.editor.form? block).any (·.dirty) = true → confirmed = true) :
      Undone before block (edited.step (.cancel block confirmed)) :=
    (unfinished.run different concerns).undone stored named within fresh unlinked selfless unsaved
      idle agreed
  constructor
  · exact undone fun _ => rfl
  · intro same
    refine undone fun dirty => ?_
    -- No form is dirty after values were handed in that it shows already.
    obtain ⟨form, present, changed⟩ := (Option.any_eq_true _ _).mp dirty
    have clean := (untouched.run unfinished different (blockKind?_newRecord kind defaults)
      concerns same form present).2
    rw [clean] at changed
    cases changed

/-- A new heading is cancelled after it was typed and could not be saved, and another time after its
edit mode was switched off and on. -/
theorem cancel_undoes_insert_of_failed :
    let answer : Json := .obj [("realm", .obj [("id", .str "r"), ("__typename", .str "Realm"),
      ("blocks", .arr [.obj [("id", .str "b"), ("__typename", .str "TitleBlock")]])])]
    let events : List Event := [.navigate (Place.realmContent "/").url, .resolve 1 (.ok answer)]
    let before := (start .standard).run events
    let opened := before.step (.insert (.persisted "r") 0 .title ∅)
    let block : RecordId := .pending 1
    let edits : List Event := [.updateForm block (.title "x"), .submit block (.title ""),
      .submit block (.title "x"), .complete 1 (.ok (.obj []))]
    let switches : List Event := [.setEditMode block false, .setEditMode block true]
    (∀ event ∈ events, event.InSession FieldMap.Unlinked) ∧
      opened.1 = .inserted (.ok block) ∧
      Undone before block ((opened.2.run edits).step (.cancel block true)) ∧
      Undone before block ((opened.2.run switches).step (.cancel block false)) := by
  intro answer events before opened block edits switches
  have session : ∀ event ∈ events, event.InSession FieldMap.Unlinked := by
    simp [events, Event.InSession]
  have plain : FieldMap.Unlinked ∅ := by simp [FieldMap.Unlinked]
  let found : Record := ⟨"Realm", .ofList [(Field.blocks, .links [.persisted "b"])]⟩
  have stored : before.cache.read (.persisted "r") = some found := by decide +kernel
  have named : found.get? Field.blocks = some (.links [.persisted "b"]) := by decide +kernel
  have done : (before.editor.insert before.cache (.persisted "r") 0 .title ∅).1 = .ok block := by
    decide +kernel
  have inserted : opened.1 = .inserted (.ok block) := congrArg Outcome.inserted done
  have undoes := cancel_undoes_insert .standard session (.persisted "r") 0 .title plain found _
    block stored named inserted
  refine ⟨session, inserted, ?_, ?_⟩
  · exact (undoes edits (by decide +kernel) (by decide +kernel)).1
  · refine (undoes switches (by decide +kernel) (by decide +kernel)).2 ?_
    simp [switches, Event.handed?]

end Desk

end RealmDesk
