import RealmDesk.Proofs.Desk.Tended
import RealmDesk.Proofs.Record.Slots

/-!
# The blocks of a realm as a plain list

As far as the blocks of a realm are concerned, editing is what happens to a plain list: an insertion
inserts, a cancellation that removes a block takes out its slot, a block that was saved leaves its
slot to the id of the server, and everything else leaves the list alone.
-/

namespace RealmDesk

/-- No record of a snapshot says what the blocks of a realm are. -/
def Snapshot.Omits (snapshot : Snapshot) (realm : RecordId) : Prop :=
  ∀ entry ∈ snapshot.entries, entry.1 = realm → entry.2.get? Field.blocks = none

instance (snapshot : Snapshot) (realm : RecordId) : Decidable (snapshot.Omits realm) :=
  inferInstanceAs (Decidable (∀ entry ∈ snapshot.entries, _ → _))

/-- The realm in which a block is to be created. -/
def Mutation.realm? : Mutation → Option RecordId
  | .create realm _ _ => some (.persisted realm)
  | .update _ _ => none

/-- The id that an answer gives to the block that was to be created. -/
def Mutation.created? (mutation : Mutation) (normalized : Normalized) : Option RecordId :=
  match mutation with
  | .create _ index input =>
      Dispatcher.createdBlock? normalized (Operation.createBlockField input.kind) index
  | .update _ _ => none

/-- An answer names a new block of a realm by an id that is not listed, or says nothing about the
blocks of the realm. -/
def Mutation.Heeded (mutation : Mutation) (normalized : Normalized) (realm : RecordId)
    (blocks : List RecordId) : Prop :=
  if mutation.realm? = some realm then ∀ saved ∈ mutation.created? normalized, saved ∉ blocks
  else normalized.snapshot.Omits realm

instance (mutation : Mutation) (normalized : Normalized) (realm : RecordId)
    (blocks : List RecordId) : Decidable (mutation.Heeded normalized realm blocks) :=
  inferInstanceAs (Decidable (ite _ _ _))

theorem Mutation.Heeded.unlisted {mutation : Mutation} {normalized : Normalized}
    {realm saved : RecordId} {blocks : List RecordId}
    (heeded : mutation.Heeded normalized realm blocks) (named : mutation.realm? = some realm)
    (created : mutation.created? normalized = some saved) : saved ∉ blocks := by
  rw [Heeded, if_pos named] at heeded
  exact heeded saved created

theorem Mutation.Heeded.omits {mutation : Mutation} {normalized : Normalized}
    {realm : RecordId} {blocks : List RecordId} (heeded : mutation.Heeded normalized realm blocks)
    (other : mutation.realm? ≠ some realm) : normalized.snapshot.Omits realm := by
  rwa [Heeded, if_neg other] at heeded

namespace Desk

/-- What happens to a plain list of the blocks of a realm. -/
def relist (realm : RecordId) (blocks : List RecordId) : Event × Outcome → List RecordId
  | (.insert target index _ _, .inserted (.ok block)) =>
      if target = realm then blocks.insertIdx index block else blocks
  | (.cancel block _, .cancelled (.ok .removed)) => blocks.erase block
  | (.complete _ _, .completed (.ok (.saved previous block))) => blocks.replace previous block
  | _ => blocks

/-- Events with what they come to. -/
def trace (desk : Desk) : List Event → List (Event × Outcome)
  | [] => []
  | event :: events => (event, (desk.step event).1) :: (desk.step event).2.trace events

/-- Every event meets a condition at the desk at which it happens. -/
def Along (holds : Desk → Event → Prop) (desk : Desk) : List Event → Prop
  | [] => True
  | event :: events => holds desk event ∧ (desk.step event).2.Along holds events

instance decidableAlong (holds : Desk → Event → Prop) [∀ desk event, Decidable (holds desk event)] :
    (desk : Desk) → (events : List Event) → Decidable (desk.Along holds events)
  | _, [] => .isTrue trivial
  | desk, event :: events =>
      have := decidableAlong holds (desk.step event).2 events
      inferInstanceAs (Decidable (holds desk event ∧ (desk.step event).2.Along holds events))

/-- The request and the records that an answer is about. -/
def answered? (desk : Desk) (ticket : Nat) (result : ApiResult Json) :
    Option (SaveRequest × Normalized) :=
  match desk.editor.dispatcher.inFlight[ticket]?, Normalized.ofResult result with
  | some request, .ok normalized => some (request, normalized)
  | _, _ => none

/-- An event of the editing of a realm. Answers keep to the realm that was asked for, the realm is
not itself a block that was never saved, and it outlives the garbage collections. -/
def Edits (realm : RecordId) (desk : Desk) : Event → Prop
  | .insert .. | .setEditMode .. | .updateForm .. | .prune => True
  | .submit block _ | .cancel block _ => realm.isPending → block ≠ realm
  | .complete ticket result =>
      ∀ answered ∈ desk.answered? ticket result,
        answered.1.mutation.Heeded answered.2 realm (desk.view.blocks realm)
  | .collectGarbage => realm ∈ desk.cache.store.roots
  | _ => False

instance (realm : RecordId) (desk : Desk) : (event : Event) → Decidable (Edits realm desk event)
  | .insert .. | .setEditMode .. | .updateForm .. | .prune => .isTrue trivial
  | .submit block _ | .cancel block _ =>
      inferInstanceAs (Decidable (realm.isPending → block ≠ realm))
  | .complete ticket result =>
      inferInstanceAs (Decidable (∀ answered ∈ desk.answered? ticket result, _))
  | .collectGarbage => inferInstanceAs (Decidable (realm ∈ desk.cache.store.roots))
  | .navigate .. | .reload | .resolve .. | .dispatch .. | .finish .. | .addChild .. | .merge .. |
    .update .. | .subscribe .. | .unsubscribe .. | .retain .. | .release .. => .isFalse id

/-- A realm whose blocks can be edited: its new blocks are in order, and it is no new block. -/
structure Governed (desk : Desk) (realm : RecordId) : Prop where
  /-- The pending ids are in order. -/
  tended : desk.Tended realm
  /-- No request creates the realm as a block. -/
  apart : ∀ request text index input, desk.Sent request →
    request.mutation = .create text index input → request.block ≠ realm

variable {desk : Desk} {realm : RecordId} {event : Event}

/-! ## One event -/

/-- The realm is still there, with the list that a plain list has become. -/
def Follows (realm : RecordId) (desk : Desk) (event : Event) : Prop :=
  ((desk.step event).2.view realm).isSome ∧
    (desk.step event).2.view.blocks realm =
      relist realm (desk.view.blocks realm) (event, (desk.step event).1)

theorem follows_of_kept (stored : (desk.view realm).isSome)
    (isSome : ((desk.step event).2.view realm).isSome = (desk.view realm).isSome)
    (blocks : (desk.step event).2.view.blocks realm = desk.view.blocks realm)
    (told : relist realm (desk.view.blocks realm) (event, (desk.step event).1) =
      desk.view.blocks realm) : Follows realm desk event :=
  ⟨isSome.trans stored, blocks.trans told.symm⟩

theorem follows_insert (stored : (desk.view realm).isSome) (target : RecordId) (index : Nat)
    (kind : BlockKind) (defaults : FieldMap) :
    Follows realm desk (.insert target index kind defaults) := by
  obtain ⟨-, ⟨done, fresh, ⟨found, present, -⟩, within, wrote⟩ |
    ⟨error, lastPending, failed, -, wrote⟩⟩ :=
      desk.editor.insert_cases desk.cache target index kind defaults
  · have shown : (desk.step (.insert target index kind defaults)).2.view = _ := wrote.view
    have came : (desk.step (.insert target index kind defaults)).1 =
        .inserted (.ok (.pending (desk.cache.store.lastPending + 1))) := congrArg _ done
    refine ⟨?_, ?_⟩
    · rw [shown]
      exact (View.isSome_place ..).mpr (.inr stored)
    · rw [shown, came]
      by_cases same : target = realm
      · subst same
        simp only [relist, if_pos]
        exact View.blocks_place_self stored
      · have different : realm ≠ .pending (desk.cache.store.lastPending + 1) := by
          rintro rfl
          simp [fresh] at stored
        simp only [relist, if_neg same]
        exact View.blocks_place_of_ne (Ne.symm same) different
  · have shown : (desk.step (.insert target index kind defaults)).2.view = desk.view := wrote.view
    have came : (desk.step (.insert target index kind defaults)).1 = .inserted (.error error) :=
      congrArg _ failed
    exact follows_of_kept stored (by rw [shown]) (by rw [shown]) (by rw [came]; rfl)

private theorem kept_by_mark (view : View) (realm block : RecordId) (on : Bool) :
    (view.mark block on realm).isSome = (view realm).isSome ∧
      (view.mark block on).blocks realm = view.blocks realm :=
  ⟨View.isSome_set .., View.blocks_set_of_ne (by decide) block realm⟩

theorem follows_setEditMode (stored : (desk.view realm).isSome) (block : RecordId) (on : Bool) :
    Follows realm desk (.setEditMode block on) := by
  obtain ⟨wrote, -⟩ := desk.editor.setEditMode_wrote desk.cache block on
  have shown : (desk.step (.setEditMode block on)).2.view = _ := wrote.view
  obtain ⟨isSome, blocks⟩ := kept_by_mark desk.view realm block on
  exact follows_of_kept stored (by rw [shown, isSome]) (by rw [shown, blocks]) rfl

theorem follows_updateForm (stored : (desk.view realm).isSome) (block : RecordId)
    (values : BlockValues) : Follows realm desk (.updateForm block values) := by
  cases form : desk.editor.form? block with
  | none =>
      have same : desk.step (.updateForm block values) =
          (.edited (.error (.unknownBlock block)), desk) := by
        simp only [step, Editor.updateForm, form]
      exact follows_of_kept stored (by rw [same]) (by rw [same]) (by rw [same]; rfl)
  | some present =>
      have same : desk.step (.updateForm block values) =
          (.edited (.ok ()), { desk with
            editor := desk.editor.setForm block (present.type values) }) := by
        simp only [step, Editor.updateForm, form]
      exact follows_of_kept stored (by rw [same]) (by rw [same]) (by rw [same]; rfl)

theorem follows_cancel (governed : desk.Governed realm) (stored : (desk.view realm).isSome)
    {block : RecordId} (confirmed : Bool) (spared : realm.isPending → block ≠ realm) :
    Follows realm desk (.cancel block confirmed) := by
  obtain ⟨-, ⟨realms, done, -, pending, named, wrote⟩ | ⟨other, next, kept, wrote⟩⟩ :=
    desk.editor.cancel_cases desk.cache block confirmed
  · have shown : (desk.step (.cancel block confirmed)).2.view = _ := wrote.view
    have came : (desk.step (.cancel block confirmed)).1 = .cancelled (.ok .removed) :=
      congrArg _ done
    have different : realm ≠ block := by
      rintro rfl
      exact spared pending rfl
    refine ⟨?_, ?_⟩
    · rw [shown]
      exact (View.isSome_remove ..).mpr ⟨different, stored⟩
    · rw [shown, came, View.blocks_remove named different]
      obtain ⟨number, rfl⟩ := RecordId.exists_eq_pending pending
      exact (erase_eq_filter (governed.tended.once number)).symm
  · have shown : (desk.step (.cancel block confirmed)).2.view = next := wrote.view
    have told : relist realm (desk.view.blocks realm)
        (.cancel block confirmed, (desk.step (.cancel block confirmed)).1) =
          desk.view.blocks realm := by
      change relist realm _ (_, .cancelled (desk.editor.cancel desk.cache block confirmed).1) = _
      generalize (desk.editor.cancel desk.cache block confirmed).1 = result at other
      cases result with
      | error => rfl
      | ok cancellation =>
          cases cancellation with
          | removed => exact absurd rfl other
          | _ => rfl
    rcases kept with rfl | rfl
    · exact follows_of_kept stored (by rw [shown]) (by rw [shown]) told
    · obtain ⟨isSome, blocks⟩ := kept_by_mark desk.view realm block false
      exact follows_of_kept stored (by rw [shown, isSome]) (by rw [shown, blocks]) told

/-- The list of a realm after an answer, as a plain list would have it. -/
def relistAnswered (blocks : List RecordId) : SaveOutcome → List RecordId
  | .saved previous block => blocks.replace previous block
  | .failed _ _ => blocks

theorem blocks_of_finished (governed : desk.Governed realm) (stored : (desk.view realm).isSome)
    {request : SaveRequest} {result : ApiResult Json} {after : Cache} {outcome : SaveOutcome}
    (sent : desk.Sent request)
    (heeded : ∀ normalized, Normalized.ofResult result = .ok normalized →
      request.mutation.Heeded normalized realm (desk.view.blocks realm))
    (finished : Dispatcher.Finished desk.cache request result after outcome) :
    (after.store.records.view realm).isSome ∧
      after.store.records.view.blocks realm = relistAnswered (desk.view.blocks realm) outcome ∧
      ((desk.view.blocks realm).Nodup →
        (relistAnswered (desk.view.blocks realm) outcome).Nodup) := by
  cases finished with
  | refused error wrote reason =>
      rw [wrote.view]
      exact ⟨stored, rfl, id⟩
  | updated id input normalized asked read wrote =>
      have omits := (heeded normalized read).omits (by simp [asked, Mutation.realm?])
      rw [wrote.view]
      refine ⟨(View.isSome_mergeSnapshot ..).mpr (.inl stored), ?_, ?_⟩
      · rw [View.blocks_mergeSnapshot_of_absent omits]
        exact (replace_self _ _).symm
      · rw [relistAnswered, replace_self]
        exact fun distinct => distinct
  | created text index input normalized saved asked read named present wrote =>
      have different := (governed.apart request text index input sent asked).symm
      obtain ⟨number, block, -, own⟩ := governed.tended.asked request text index input sent asked
      have names : request.mutation.realm? = some (.persisted text) := by
        simp [asked, Mutation.realm?]
      have creates : request.mutation.created? normalized = some saved := by
        simpa [asked, Mutation.created?] using named
      rw [wrote.view]
      refine ⟨(View.isSome_adopt ..).mpr (.inl ⟨different, stored⟩), ?_⟩
      by_cases same : realm = .persisted text
      · subst same
        have fresh := (heeded normalized read).unlisted names creates
        exact ⟨View.blocks_adopt_self stored different,
          fun distinct => nodup_replace distinct fresh⟩
      · have unlisted : request.block ∉ desk.view.blocks realm := fun listed => same (own listed)
        have omits := (heeded normalized read).omits
          (by simpa [names] using fun equal : RecordId.persisted text = realm => same equal.symm)
        rw [View.blocks_adopt_of_ne same different omits, relistAnswered,
          List.replace_of_not_mem unlisted]
        exact ⟨rfl, fun distinct => distinct⟩

theorem answered?_eq_some {ticket : Nat} {result : ApiResult Json} {request : SaveRequest}
    {normalized : Normalized}
    (standing : desk.editor.dispatcher.inFlight[ticket]? = some request)
    (read : Normalized.ofResult result = .ok normalized) :
    desk.answered? ticket result = some (request, normalized) := by
  rw [answered?, standing, read]

theorem complete_cases (governed : desk.Governed realm) (stored : (desk.view realm).isSome)
    {ticket : Nat} {result : ApiResult Json}
    (heeded : ∀ answered ∈ desk.answered? ticket result,
      answered.1.mutation.Heeded answered.2 realm (desk.view.blocks realm)) :
    (∃ error, desk.step (.complete ticket result) = (.completed (.error error), desk)) ∨
      ∃ outcome, (desk.step (.complete ticket result)).1 = .completed (.ok outcome) ∧
        ((desk.step (.complete ticket result)).2.view realm).isSome ∧
        (desk.step (.complete ticket result)).2.view.blocks realm =
          relistAnswered (desk.view.blocks realm) outcome ∧
        ((desk.view.blocks realm).Nodup →
          (relistAnswered (desk.view.blocks realm) outcome).Nodup) := by
  cases standing : desk.editor.dispatcher.inFlight[ticket]? with
  | none => exact .inl ⟨_, complete_of_absent standing result⟩
  | some request =>
      obtain ⟨outcome, middle, answered⟩ := answered_of_standing standing result
      obtain ⟨present, blocks, distinct⟩ := blocks_of_finished governed stored
        ⟨ticket, .inl standing⟩
        (fun normalized read => heeded _ (answered?_eq_some standing read)) answered.finished
      refine .inr ⟨outcome, answered.told, ?_, ?_, distinct⟩
      · rw [answered.isSome]
        exact present
      · rw [answered.blocks]
        exact blocks

/-- An event of the editing does to the blocks of the realm what it does to a plain list. -/
theorem follows (governed : desk.Governed realm) (stored : (desk.view realm).isSome)
    (edits : Edits realm desk event) : Follows realm desk event := by
  cases event with
  | insert target index kind defaults => exact follows_insert stored target index kind defaults
  | setEditMode block on => exact follows_setEditMode stored block on
  | updateForm block values => exact follows_updateForm stored block values
  | submit block values => exact follows_of_kept stored rfl rfl rfl
  | complete ticket result =>
      rcases complete_cases governed stored edits with
        ⟨error, same⟩ | ⟨outcome, came, present, blocks, -⟩
      · exact follows_of_kept stored (by rw [same]) (by rw [same]) (by rw [same]; rfl)
      · refine ⟨present, blocks.trans ?_⟩
        rw [came]
        cases outcome <;> rfl
  | cancel block confirmed => exact follows_cancel governed stored confirmed edits
  | prune => exact follows_of_kept stored rfl rfl rfl
  | collectGarbage =>
      have same : (desk.step .collectGarbage).2.view realm = desk.view realm := by
        change Option.map _ _ = Option.map _ _
        exact congrArg _ (Store.getElem?_collectGarbage_of_root edits)
      exact follows_of_kept stored (by rw [same]) (by rw [View.blocks, same]; rfl) rfl
  | _ => exact edits.elim

/-- No event of the editing lists a block twice. -/
theorem nodup_relist (governed : desk.Governed realm) (stored : (desk.view realm).isSome)
    (edits : Edits realm desk event) (distinct : (desk.view.blocks realm).Nodup) :
    (relist realm (desk.view.blocks realm) (event, (desk.step event).1)).Nodup := by
  cases event with
  | insert target index kind defaults =>
      obtain ⟨-, ⟨done, -, -, within, -⟩ | ⟨error, lastPending, failed, -, -⟩⟩ :=
        desk.editor.insert_cases desk.cache target index kind defaults
      · have came : (desk.step (.insert target index kind defaults)).1 =
            .inserted (.ok (.pending (desk.cache.store.lastPending + 1))) := congrArg _ done
        rw [came]
        by_cases same : target = realm
        · subst same
          simp only [relist, if_pos]
          exact nodup_insertIdx within distinct (governed.tended.fresh (.inl rfl))
        · simpa only [relist, if_neg same] using distinct
      · have came : (desk.step (.insert target index kind defaults)).1 = .inserted (.error error) :=
          congrArg _ failed
        rw [came]
        exact distinct
  | complete ticket result =>
      rcases complete_cases governed stored edits with
        ⟨error, same⟩ | ⟨outcome, came, -, -, keeps⟩
      · rw [same]
        exact distinct
      · rw [came]
        have kept := keeps distinct
        cases outcome <;> exact kept
  | cancel block confirmed =>
      change (relist realm _
        (_, .cancelled (desk.editor.cancel desk.cache block confirmed).1)).Nodup
      generalize (desk.editor.cancel desk.cache block confirmed).1 = result
      cases result with
      | error => exact distinct
      | ok cancellation =>
          cases cancellation with
          | removed => exact distinct.erase block
          | _ => exact distinct
  | _ => exact distinct

/-! ## Runs -/

theorem sent_of_step {request : SaveRequest} (edits : Edits realm desk event)
    (sent : (desk.step event).2.Sent request) :
    desk.Sent request ∨ ∃ values, event = .submit request.block values := by
  cases event with
  | insert target index kind defaults =>
      exact .inl (sent_of_dispatcher_eq
        (desk.editor.insert_cases desk.cache target index kind defaults).1 request sent)
  | setEditMode block on =>
      exact .inl (sent_of_dispatcher_eq
        (desk.editor.setEditMode_wrote desk.cache block on).2 request sent)
  | updateForm block values =>
      cases form : desk.editor.form? block with
      | none =>
          simp only [step, Editor.updateForm, form] at sent
          exact .inl sent
      | some present =>
          simp only [step, Editor.updateForm, form] at sent
          exact .inl sent
  | submit block values =>
      rcases desk.editor.submit_cases desk.cache.store block values with
        ⟨-, -, same⟩ | ⟨handed, input, -, dispatched⟩
      · exact .inl (@sent_of_dispatcher_eq desk _ desk.cache same request sent)
      · obtain ⟨-, block, -⟩ := Dispatcher.dispatch_of_ok dispatched
        obtain ⟨ticket, standing | standing⟩ := sent
        · rcases (asked_of_dispatch dispatched).2 ticket request standing with ⟨-, rfl⟩ | old
          · exact .inr ⟨values, by rw [block]⟩
          · exact .inl ⟨ticket, .inl old⟩
        · exact .inl ⟨ticket, .inr standing⟩
  | complete ticket result =>
      cases standing : desk.editor.dispatcher.inFlight[ticket]? with
      | none =>
          rw [complete_of_absent standing] at sent
          exact .inl sent
      | some other =>
          obtain ⟨outcome, middle, answered⟩ := answered_of_standing standing result
          rw [Sent, answered.dispatcher, answered.apart] at sent
          obtain ⟨number, standing | standing⟩ := sent
          · exact .inl ⟨number, .inl (sent_of_erase standing)⟩
          · exact .inl ⟨number, .inr standing⟩
  | cancel block confirmed =>
      exact .inl (sent_of_dispatcher_eq
        (desk.editor.cancel_cases desk.cache block confirmed).1 request sent)
  | prune => exact .inl sent
  | collectGarbage => exact .inl sent
  | _ => exact edits.elim

/-- The editing keeps a realm governed. -/
theorem Governed.step (governed : desk.Governed realm) (stored : (desk.view realm).isSome)
    (edits : Edits realm desk event) : (desk.step event).2.Governed realm := by
  have tended : (desk.step event).2.Tended realm := by
    cases event with
    | insert target index kind defaults =>
        have placed : Turn (fun _ => True) desk
            (desk.step (.insert target index kind defaults)).2 := turn_insert trivial
        exact governed.tended.turn (fun _ _ _ => stored) placed
    | merge | update => exact edits.elim
    | _ => exact governed.tended.step_of_forbidden trivial
  refine ⟨tended, fun request text index input sent asked => ?_⟩
  rcases sent_of_step edits sent with old | ⟨values, rfl⟩
  · exact governed.apart request text index input old asked
  · obtain ⟨number, block, -⟩ := tended.asked request text index input sent asked
    rintro rfl
    exact edits (by rw [block]; rfl) rfl

private theorem blocks_of_run (governed : desk.Governed realm) (stored : (desk.view realm).isSome)
    (distinct : (desk.view.blocks realm).Nodup) {events : List Event}
    (edits : desk.Along (Edits realm) events) :
    ((desk.run events).view realm).isSome ∧
      (desk.run events).view.blocks realm =
        (desk.trace events).foldl (relist realm) (desk.view.blocks realm) ∧
      ((desk.run events).view.blocks realm).Nodup := by
  induction events generalizing desk with
  | nil => exact ⟨stored, rfl, distinct⟩
  | cons event events induction =>
      obtain ⟨edit, edits⟩ := edits
      obtain ⟨present, blocks⟩ := follows governed stored edit
      have kept := nodup_relist governed stored edit distinct
      obtain ⟨remains, run, once⟩ := induction (governed.step stored edit) present
        (blocks ▸ kept) edits
      refine ⟨remains, run.trans ?_, once⟩
      rw [blocks]
      rfl

/-- A saved realm whose pending ids are in order is governed. -/
theorem Tended.governed {text : String} (tended : desk.Tended (.persisted text)) :
    desk.Governed (.persisted text) := by
  refine ⟨tended, fun request other index input sent asked => ?_⟩
  obtain ⟨number, block, -⟩ := tended.asked request other index input sent asked
  rw [block]
  nofun

/-- In a session every saved realm is governed. -/
theorem governed_run {allowed : FieldMap → Prop} (table : RouteTable) {events : List Event}
    (session : ∀ event ∈ events, event.InSession allowed) (text : String) :
    ((start table).run events).Governed (.persisted text) :=
  ((tended_start table (.persisted text)).turns (turns_run session (start table))).governed

theorem blocks_eq_links {record : Record} (found : desk.cache.store.read realm = some record) :
    desk.view realm = some record.unsignedZeros ∧
      desk.view.blocks realm = record.links Field.blocks := by
  have shown : desk.view realm = some record.unsignedZeros := by
    rw [view, Records.view, show desk.cache.store.records[realm]? = some record from found]
    rfl
  exact ⟨shown, by simp [View.blocks, shown]⟩

/-- Whatever a run of the editing does to the blocks of a governed realm, it does to a plain
list. -/
theorem refines_list {record : Record} (governed : desk.Governed realm)
    (found : desk.cache.store.read realm = some record)
    (distinct : (record.links Field.blocks).Nodup) {events : List Event}
    (edits : desk.Along (Edits realm) events) :
    let blocks := (desk.trace events).foldl (relist realm) (record.links Field.blocks)
    ((desk.run events).cache.store.read realm).map (·.links Field.blocks) = some blocks ∧
      blocks.Nodup := by
  intro blocks
  obtain ⟨shown, listed⟩ := blocks_eq_links found
  obtain ⟨present, run, once⟩ :=
    blocks_of_run governed (by simp [shown]) (listed ▸ distinct) edits
  rw [listed] at run
  cases after : (desk.run events).cache.store.read realm with
  | none =>
      rw [view, Records.view, show (desk.run events).cache.store.records[realm]? = none from after]
        at present
      cases present
  | some later =>
      rw [(blocks_eq_links after).2] at run once
      rw [run] at once
      exact ⟨congrArg some run, once⟩

/-- Two new blocks around a saved one: the first is saved, the second one is cancelled. -/
theorem refines_list_saved_and_cancelled :
    let block (id : String) : Json := .obj [("id", .str id), ("__typename", .str "TitleBlock")]
    let realm (blocks : List Json) : Json :=
      .obj [("id", .str "r"), ("__typename", .str "Realm"), ("blocks", .arr blocks)]
    let loaded : List Event := [.navigate (Place.realmContent "/").url,
      .resolve 1 (.ok (.obj [("realm", realm [block "a"])]))]
    let events : List Event := [.insert (.persisted "r") 0 .title ∅,
      .insert (.persisted "r") 2 .title ∅, .submit (.pending 1) (.title "x"),
      .complete 1 (.ok (.obj [("addTitleBlock", realm [block "b", block "a"])])),
      .collectGarbage, .cancel (.pending 2) true]
    let desk := (start .standard).run loaded
    ∃ record, (∀ event ∈ loaded, event.InSession fun _ => True) ∧
      desk.Governed (.persisted "r") ∧
      desk.cache.store.read (.persisted "r") = some record ∧
      (record.links Field.blocks).Nodup ∧ desk.Along (Edits (.persisted "r")) events ∧
      ((desk.run events).cache.store.read (.persisted "r")).map (·.links Field.blocks) =
        some [.persisted "b", .persisted "a"] ∧
      let blocks := (desk.trace events).foldl (relist (.persisted "r")) (record.links Field.blocks)
      ((desk.run events).cache.store.read (.persisted "r")).map (·.links Field.blocks) =
        some blocks ∧ blocks.Nodup := by
  intro block realm loaded events desk
  have session : ∀ event ∈ loaded, event.InSession fun _ => True := by
    simp [loaded, Event.InSession]
  have governed : desk.Governed (.persisted "r") := governed_run .standard session "r"
  let record : Record := ⟨"Realm", FieldMap.ofList [(Field.blocks, .links [.persisted "a"])]⟩
  have found : desk.cache.store.read (.persisted "r") = some record := by decide +kernel
  have distinct : (record.links Field.blocks).Nodup := by decide +kernel
  have edits : desk.Along (Edits (.persisted "r")) events := by decide +kernel
  exact ⟨record, session, governed, found, distinct, edits, by decide +kernel,
    refines_list governed found distinct edits⟩

/-- A new block that two realms list is saved in the one whose id comes first; the list of the
other one keeps the pending id, whose record is gone. -/
theorem not_refines_list_of_shared_block :
    let block : Json := .obj [("id", .str "b"), ("__typename", .str "TitleBlock")]
    let answer : Json := .obj [("addTitleBlock",
      .obj [("id", .str "r"), ("__typename", .str "Realm"), ("blocks", .arr [block])])]
    let empty : Record := ⟨"Realm", FieldMap.ofList [(Field.blocks, .links [])]⟩
    let desk := (start .standard).run [.merge ⟨[(.persisted "r", empty), (.persisted "s", empty)]⟩,
      .insert (.persisted "s") 0 .title ∅,
      .update [.command (.setLinks (.persisted "r") Field.blocks [.pending 1]) false]]
    let events : List Event := [.submit (.pending 1) (.title "x"), .complete 1 (.ok answer)]
    ∃ record, desk.cache.store.read (.persisted "s") = some record ∧
      (record.links Field.blocks).Nodup ∧
      (∀ id ∈ record.links Field.blocks, desk.cache.store.contains id) ∧
      desk.Along (Edits (.persisted "s")) events ∧
      (desk.trace events).foldl (relist (.persisted "s")) (record.links Field.blocks) =
        [.persisted "b"] ∧
      ((desk.run events).cache.store.read (.persisted "s")).map (·.links Field.blocks) =
        some [.pending 1] := by
  intro block answer empty desk events
  let record : Record := ⟨"Realm", FieldMap.ofList [(Field.blocks, .links [.pending 1])]⟩
  exact ⟨record, by decide +kernel, by decide +kernel, by decide +kernel, by decide +kernel,
    by decide +kernel, by decide +kernel⟩

end Desk

end RealmDesk
