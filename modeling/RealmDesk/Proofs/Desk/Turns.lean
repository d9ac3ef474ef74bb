import Mathlib.Logic.Relation
import RealmDesk.Desk
import RealmDesk.Proofs.Editing.Writes
import RealmDesk.Proofs.Visit.Records

/-!
# Turns of the desk

Whatever happens at the desk is a few turns, each of which changes the records in one known way or
hands out one request. Invariants of a session are proved turn by turn.
-/

namespace RealmDesk

namespace Desk

/-- The records of the desk. -/
abbrev view (desk : Desk) : View :=
  desk.cache.store.records.view

/-- A request is in flight, made by the editor or without it. -/
def Sent (desk : Desk) (request : SaveRequest) : Prop :=
  ∃ ticket : Nat, desk.editor.dispatcher.inFlight[ticket]? = some request ∨
    desk.dispatcher.inFlight[ticket]? = some request

/-- An event of a session: nothing is merged or updated from outside, and new blocks are inserted
with defaults that are allowed. -/
def Event.InSession (allowed : FieldMap → Prop) : Event → Prop
  | .insert _ _ _ defaults => allowed defaults
  | .merge _ | .update _ => False
  | _ => True

/-- One change of the records or of the requests in flight. -/
inductive Turn (allowed : FieldMap → Prop) (before after : Desk) : Prop where
  /-- Records may be evicted. -/
  | tidied (tidied : before.cache.Tidied after.cache)
      (fewer : ∀ request, after.Sent request → before.Sent request)
  /-- A pending id may be given out in vain. -/
  | counted (lastPending : Nat) (grown : before.cache.store.lastPending ≤ lastPending)
      (wrote : before.cache.Wrote after.cache before.view lastPending)
      (fewer : ∀ request, after.Sent request → before.Sent request)
  /-- A new block is placed. -/
  | placed (realm : RecordId) (index : Nat) (kind : BlockKind) (defaults : FieldMap)
      (plain : allowed defaults)
      (fresh : before.view (.pending (before.cache.store.lastPending + 1)) = none)
      (typed : ∃ record, before.view realm = some record ∧ record.typeTag = realmType)
      (within : index ≤ (before.view.blocks realm).length)
      (wrote : before.cache.Wrote after.cache
        (before.view.place realm index (.pending (before.cache.store.lastPending + 1))
          (Editor.newRecord kind defaults).unsignedZeros) (before.cache.store.lastPending + 1))
      (fewer : ∀ request, after.Sent request → before.Sent request)
  /-- The edit mode of a block is switched. -/
  | marked (block : RecordId) (on : Bool)
      (wrote : before.cache.Wrote after.cache (before.view.mark block on)
        before.cache.store.lastPending)
      (fewer : ∀ request, after.Sent request → before.Sent request)
  /-- A new block is removed. -/
  | removed (block : RecordId) (realms : List RecordId) (pending : block.isPending)
      (named : ∀ id, before.view.LinksTo id Field.blocks block → id ∈ realms)
      (wrote : before.cache.Wrote after.cache (before.view.remove block realms)
        before.cache.store.lastPending)
      (fewer : ∀ request, after.Sent request → before.Sent request)
  /-- The records of an answer are merged. -/
  | merged (snapshot : Snapshot) (closed : snapshot.Closed)
      (wrote : before.cache.Wrote after.cache (before.view.mergeSnapshot snapshot)
        before.cache.store.lastPending)
      (fewer : ∀ request, after.Sent request → before.Sent request)
  /-- A new block adopts the id of the server. -/
  | adopted (request : SaveRequest) (realm : String) (index : Nat) (input : BlockInput)
      (saved : RecordId) (snapshot : Snapshot) (sent : before.Sent request)
      (asked : request.mutation = .create realm index input) (closed : snapshot.Closed)
      (member : saved ∈ snapshot.entries.map Prod.fst)
      (present : (before.view (.persisted realm)).isSome)
      (wrote : before.cache.Wrote after.cache
        (before.view.adopt request.block saved (.persisted realm) snapshot)
        before.cache.store.lastPending)
      (fewer : ∀ request, after.Sent request → before.Sent request)
  /-- A request is handed out; one that creates a block names a realm that lists it. -/
  | sent (request : SaveRequest) (same : after.cache = before.cache)
      (asked : ∀ realm index input, request.mutation = .create realm index input →
        request.block.isPending ∧ (before.view request.block).isSome ∧
          request.block ∈ before.view.blocks (.persisted realm))
      (more : ∀ other, after.Sent other → other = request ∨ before.Sent other)

/-- Some turns after each other. -/
abbrev Turns (allowed : FieldMap → Prop) : Desk → Desk → Prop :=
  Relation.ReflTransGen (Turn allowed)

variable {allowed : FieldMap → Prop} {desk : Desk}

theorem sent_of_dispatcher_eq {editor : Editor} {cache : Cache}
    (same : editor.dispatcher = desk.editor.dispatcher) (request : SaveRequest)
    (sent : Sent { desk with editor, cache } request) : desk.Sent request := by
  simpa only [Sent, same] using sent

theorem turn_of_tidied {after : Desk} (tidied : desk.cache.Tidied after.cache)
    (editor : after.editor = desk.editor) (dispatcher : after.dispatcher = desk.dispatcher) :
    Turn allowed desk after := by
  refine .tidied tidied fun request sent => ?_
  simpa only [Sent, editor, dispatcher] using sent

theorem asked_of_dispatch {dispatcher later : Dispatcher} {store : Store} {block : RecordId}
    {input : BlockInput} {request : SaveRequest}
    (sent : dispatcher.dispatch store block input = .ok (request, later)) :
    (∀ realm index input, request.mutation = .create realm index input →
        request.block.isPending ∧ (store.records.view request.block).isSome ∧
          request.block ∈ store.records.view.blocks (.persisted realm)) ∧
      ∀ (ticket : Nat) (other : SaveRequest), later.inFlight[ticket]? = some other →
        (ticket = request.ticket ∧ other = request) ∨
          dispatcher.inFlight[ticket]? = some other := by
  obtain ⟨-, rfl, rfl, -, stored, found⟩ := Dispatcher.dispatch_of_ok sent
  refine ⟨fun realm index input asked => ?_, fun ticket other standing => ?_⟩
  · rcases Dispatcher.mutationFor_of_ok found with
      ⟨id, -, updated⟩ | ⟨listing, front, back, split, -, pending, created⟩
    · rw [asked] at updated
      cases updated
    · rw [asked] at created
      cases created
      exact ⟨pending, stored, by simp [split]⟩
  · dsimp only at standing
    rw [Std.ExtTreeMap.getElem?_insert] at standing
    split at standing
    case isTrue equal =>
      exact .inl ⟨(Std.LawfulEqCmp.compare_eq_iff_eq.mp equal).symm,
        (Option.some.inj standing).symm⟩
    case isFalse => exact .inr standing

theorem sent_of_erase {dispatcher : Dispatcher} {ticket number : Nat} {request : SaveRequest}
    (standing : (dispatcher.inFlight.erase ticket)[number]? = some request) :
    dispatcher.inFlight[number]? = some request := by
  rw [Std.ExtTreeMap.getElem?_erase] at standing
  split at standing
  · cases standing
  · exact standing

/-- The answer to a request in flight makes one turn. -/
theorem turn_of_finished {after : Desk} {request : SaveRequest} {result : ApiResult Json}
    {outcome : SaveOutcome} (sent : desk.Sent request)
    (finished : Dispatcher.Finished desk.cache request result after.cache outcome)
    (fewer : ∀ request, after.Sent request → desk.Sent request) : Turn allowed desk after := by
  cases finished with
  | refused error wrote reason => exact .counted _ (Nat.le_refl _) wrote fewer
  | updated id input normalized asked read wrote =>
      exact .merged _ (Normalized.closed_of_ofResult read).1 wrote fewer
  | created realm index input normalized saved asked read named present wrote =>
      have closed := (Normalized.closed_of_ofResult read).1
      exact .adopted request realm index input saved _ sent asked closed
        (Dispatcher.mem_of_createdBlock? closed named) present wrote fewer

/-- An answer to a request in flight is handed to the dispatcher. Whatever the editor does besides
changes no list of blocks. -/
structure Answered (desk : Desk) (ticket : Nat) (result : ApiResult Json) (request : SaveRequest)
    (outcome : SaveOutcome) (middle : Cache) : Prop where
  /-- The dispatcher settled the request. -/
  finished : Dispatcher.Finished desk.cache request result middle outcome
  /-- What the event comes to. -/
  told : (desk.step (.complete ticket result)).1 = .completed (.ok outcome)
  /-- The request is in flight no more. -/
  dispatcher : (desk.step (.complete ticket result)).2.editor.dispatcher =
    { desk.editor.dispatcher with inFlight := desk.editor.dispatcher.inFlight.erase ticket }
  /-- The same records are there. -/
  isSome : ∀ id, ((desk.step (.complete ticket result)).2.view id).isSome =
    (middle.store.records.view id).isSome
  /-- They list the same blocks. -/
  blocks : ∀ id, (desk.step (.complete ticket result)).2.view.blocks id =
    middle.store.records.view.blocks id
  /-- No pending id was given out. -/
  lastPending : (desk.step (.complete ticket result)).2.cache.store.lastPending =
    desk.cache.store.lastPending
  /-- The requests that were made without the editor are in flight still. -/
  apart : (desk.step (.complete ticket result)).2.dispatcher = desk.dispatcher

theorem Finished.lastPending_eq {cache after : Cache} {request : SaveRequest}
    {result : ApiResult Json} {outcome : SaveOutcome}
    (finished : Dispatcher.Finished cache request result after outcome) :
    after.store.lastPending = cache.store.lastPending := by
  cases finished with
  | refused _ wrote _ => exact wrote.lastPending_eq
  | updated _ _ _ _ _ wrote => exact wrote.lastPending_eq
  | created _ _ _ _ _ _ _ _ _ wrote => exact wrote.lastPending_eq

/-- The answer to a request that is not in flight changes nothing. -/
theorem complete_of_absent {ticket : Nat}
    (absent : desk.editor.dispatcher.inFlight[ticket]? = none) (result : ApiResult Json) :
    desk.step (.complete ticket result) = (.completed (.error .unknownTicket), desk) := by
  simp only [step, Editor.complete, Dispatcher.complete, absent]

theorem answered_of_standing {ticket : Nat} {request : SaveRequest}
    (standing : desk.editor.dispatcher.inFlight[ticket]? = some request)
    (result : ApiResult Json) :
    ∃ outcome middle, desk.Answered ticket result request outcome middle := by
  have completed := Dispatcher.complete_of_found standing desk.cache result
  have finished := Dispatcher.finished desk.cache request result
  generalize (Dispatcher.finish desk.cache request result).2 = middle at completed finished
  generalize (Dispatcher.finish desk.cache request result).1 = outcome at completed finished
  refine ⟨outcome, middle, ?_⟩
  cases outcome with
  | saved previous block =>
      -- The editor leaves the edit mode of the saved block, which is no field of a list.
      have wrote := Editor.wrote_editModeEdit middle block false
      have stepped : desk.step (.complete ticket result) =
          (.completed (.ok (.saved previous block)), { desk with
            editor := ((Editor.mk { desk.editor.dispatcher with
              inFlight := desk.editor.dispatcher.inFlight.erase ticket } desk.editor.forms).dropForm
                previous).dropForm block
            cache := (middle.update (Editor.editModeEdit block false)).2 }) := by
        simp only [step, Editor.complete, completed]
      refine ⟨finished, by rw [stepped], by rw [stepped]; rfl, fun id => ?_, fun id => ?_, ?_, ?_⟩
      · rw [stepped]
        change ((middle.update
          (Editor.editModeEdit block false)).2.store.records.view id).isSome = _
        rw [wrote.view, View.mark, View.isSome_set]
      · rw [stepped]
        change (middle.update (Editor.editModeEdit block false)).2.store.records.view.blocks id = _
        rw [wrote.view, View.mark, View.blocks_set_of_ne (by decide)]
      · rw [stepped]
        exact wrote.lastPending_eq.trans (Finished.lastPending_eq finished)
      · rw [stepped]
  | failed block error =>
      have stepped : desk.step (.complete ticket result) = (.completed (.ok (.failed block error)),
          { desk with
            editor := (Editor.mk { desk.editor.dispatcher with
              inFlight := desk.editor.dispatcher.inFlight.erase ticket } desk.editor.forms).failForm
                block error
            cache := middle }) := by
        simp only [step, Editor.complete, completed]
      refine ⟨finished, by rw [stepped], ?_, fun id => by rw [stepped], fun id => by rw [stepped],
        ?_, by rw [stepped]⟩
      · rw [stepped]
        exact Editor.dispatcher_failForm ..
      · rw [stepped]
        exact Finished.lastPending_eq finished

/-! ## Events -/

private theorem turns_resolve (desk : Desk) (generation : Nat) (result : ApiResult Json) :
    Turns allowed desk (desk.step (.resolve generation result)).2 := by
  rcases desk.navigator.resolve_cases desk.cache generation result with
    ⟨-, same⟩ | ⟨-, ⟨normalized, middle, read, wrote, tidied⟩ | ⟨-, tidied⟩⟩
  · refine .single (turn_of_tidied ?_ rfl rfl)
    change desk.cache.Tidied (desk.navigator.resolve desk.cache generation result).2.2
    rw [same]
    exact .refl desk.cache
  · have evicted : Turn allowed { desk with cache := middle }
        (desk.step (.resolve generation result)).2 := turn_of_tidied tidied rfl rfl
    refine .tail (.single ?_) evicted
    exact .merged _ (Normalized.closed_of_ofResult read).1 wrote fun _ sent => sent
  · exact .single (turn_of_tidied tidied rfl rfl)

theorem turn_insert {realm : RecordId} {index : Nat} {kind : BlockKind}
    {defaults : FieldMap} (plain : allowed defaults) :
    Turn allowed desk (desk.step (.insert realm index kind defaults)).2 := by
  obtain ⟨same, ⟨-, fresh, typed, within, wrote⟩ | ⟨-, lastPending, -, grown, wrote⟩⟩ :=
    desk.editor.insert_cases desk.cache realm index kind defaults
  · exact .placed realm index kind defaults plain fresh typed within wrote
      (sent_of_dispatcher_eq same)
  · exact .counted lastPending grown wrote (sent_of_dispatcher_eq same)

private theorem turn_submit (desk : Desk) (block : RecordId) (values : BlockValues) :
    Turn allowed desk (desk.step (.submit block values)).2 := by
  rcases desk.editor.submit_cases desk.cache.store block values with
    ⟨-, -, same⟩ | ⟨request, input, -, sent⟩
  · exact .tidied (.refl desk.cache) (@sent_of_dispatcher_eq desk _ desk.cache same)
  · obtain ⟨asked, more⟩ := asked_of_dispatch sent
    refine .sent request rfl asked ?_
    rintro other ⟨ticket, standing | standing⟩
    · exact (more ticket other standing).imp (·.2) fun old => ⟨ticket, .inl old⟩
    · exact .inr ⟨ticket, .inr standing⟩

private theorem turn_dispatch (desk : Desk) (block : RecordId) (input : BlockInput) :
    Turn allowed desk (desk.step (.dispatch block input)).2 := by
  cases sent : desk.dispatcher.dispatch desk.cache.store block input with
  | error error =>
      simp only [step, sent]
      exact turn_of_tidied (.refl desk.cache) rfl rfl
  | ok handed =>
      obtain ⟨request, dispatcher⟩ := handed
      simp only [step, sent]
      obtain ⟨asked, more⟩ := asked_of_dispatch sent
      refine .sent request rfl asked ?_
      rintro other ⟨ticket, standing | standing⟩
      · exact .inr ⟨ticket, .inl standing⟩
      · exact (more ticket other standing).imp (·.2) fun old => ⟨ticket, .inr old⟩

private theorem turn_finish (desk : Desk) (ticket : Nat) (result : ApiResult Json) :
    Turn allowed desk (desk.step (.finish ticket result)).2 := by
  cases completed : desk.dispatcher.complete desk.cache ticket result with
  | error error =>
      simp only [step, completed]
      exact turn_of_tidied (.refl desk.cache) rfl rfl
  | ok parts =>
      obtain ⟨outcome, dispatcher, cache⟩ := parts
      simp only [step, completed]
      obtain ⟨request, standing, rfl, finished⟩ := Dispatcher.complete_of_ok completed
      refine turn_of_finished ⟨ticket, .inr standing⟩ finished ?_
      rintro other ⟨number, standing | standing⟩
      · exact ⟨number, .inl standing⟩
      · exact ⟨number, .inr (sent_of_erase standing)⟩

private theorem turns_complete (desk : Desk) (ticket : Nat) (result : ApiResult Json) :
    Turns allowed desk (desk.step (.complete ticket result)).2 := by
  cases completed : desk.editor.complete desk.cache ticket result with
  | error error =>
      simp only [step, completed]
      exact .refl
  | ok parts =>
      obtain ⟨outcome, editor, cache⟩ := parts
      simp only [step, completed]
      obtain ⟨middle, handled, marked⟩ := Editor.complete_of_ok completed
      obtain ⟨request, standing, same, finished⟩ := Dispatcher.complete_of_ok handled
      have answered : Turn allowed desk { desk with editor, cache := middle } := by
        refine turn_of_finished ⟨ticket, .inl standing⟩ finished ?_
        rintro other ⟨number, standing | standing⟩
        · exact ⟨number, .inl (sent_of_erase (by simpa only [same] using standing))⟩
        · exact ⟨number, .inr standing⟩
      rcases marked with ⟨previous, block, -, wrote⟩ | ⟨block, error, -, rfl⟩
      · exact .tail (.single answered) (.marked block false wrote fun _ sent => sent)
      · exact .single answered

private theorem turn_cancel (desk : Desk) (block : RecordId) (confirmed : Bool) :
    Turn allowed desk (desk.step (.cancel block confirmed)).2 := by
  obtain ⟨same, ⟨realms, -, -, pending, named, wrote⟩ | ⟨-, next, rfl | rfl, wrote⟩⟩ :=
    desk.editor.cancel_cases desk.cache block confirmed
  · exact .removed block realms pending named wrote (sent_of_dispatcher_eq same)
  · exact .counted _ (Nat.le_refl _) wrote (sent_of_dispatcher_eq same)
  · exact .marked block false wrote (sent_of_dispatcher_eq same)

private theorem turn_addChild (desk : Desk) (result : ApiResult Json) :
    Turn allowed desk (desk.step (.addChild result)).2 := by
  cases read : Normalized.ofResult result with
  | error error =>
      simp only [step, ChildRealm.receive, read]
      exact turn_of_tidied (.refl desk.cache) rfl rfl
  | ok normalized =>
      cases path : ChildRealm.createdPath normalized with
      | error error =>
          simp only [step, ChildRealm.receive, read, path]
          exact turn_of_tidied (.refl desk.cache) rfl rfl
      | ok path' =>
          simp only [step, ChildRealm.receive, read, path]
          exact .merged _ (Normalized.closed_of_ofResult read).1
            (desk.cache.wrote_applySnapshot normalized.snapshot) fun _ sent => sent

/-- Whatever happens in a session is some turns. -/
theorem turns_step {event : Event} (session : event.InSession allowed) (desk : Desk) :
    Turns allowed desk (desk.step event).2 := by
  cases event with
  | navigate url => exact .single (turn_of_tidied (Navigator.tidied_navigate ..) rfl rfl)
  | reload => exact .single (turn_of_tidied (Navigator.tidied_reload ..) rfl rfl)
  | resolve generation result => exact turns_resolve desk generation result
  | insert realm index kind defaults => exact .single (turn_insert session)
  | setEditMode block on =>
      obtain ⟨wrote, same⟩ := desk.editor.setEditMode_wrote desk.cache block on
      exact .single (.marked block on wrote (sent_of_dispatcher_eq same))
  | updateForm block values =>
      cases form : desk.editor.form? block with
      | none =>
          simp only [step, Editor.updateForm, form]
          exact .refl
      | some present =>
          simp only [step, Editor.updateForm, form]
          exact .single (.tidied (.refl desk.cache) fun _ sent => sent)
  | submit block values => exact .single (turn_submit desk block values)
  | complete ticket result => exact turns_complete desk ticket result
  | cancel block confirmed => exact .single (turn_cancel desk block confirmed)
  | prune => exact .single (.tidied (.refl desk.cache) fun _ sent => sent)
  | dispatch block input => exact .single (turn_dispatch desk block input)
  | finish ticket result => exact .single (turn_finish desk ticket result)
  | addChild result => exact .single (turn_addChild desk result)
  | merge snapshot => exact session.elim
  | update script => exact session.elim
  | subscribe record selection => exact .single (turn_of_tidied (.of_records rfl rfl rfl) rfl rfl)
  | unsubscribe number => exact .single (turn_of_tidied (.of_records rfl rfl rfl) rfl rfl)
  | retain roots => exact .single (turn_of_tidied (.retain desk.cache roots) rfl rfl)
  | release token => exact .single (turn_of_tidied (.release desk.cache token) rfl rfl)
  | collectGarbage => exact .single (turn_of_tidied (.collectGarbage desk.cache) rfl rfl)

theorem turns_run {events : List Event} (session : ∀ event ∈ events, event.InSession allowed)
    (desk : Desk) : Turns allowed desk (desk.run events) := by
  induction events generalizing desk with
  | nil => exact .refl
  | cons event events induction =>
      exact (turns_step (session event List.mem_cons_self) desk).trans
        (induction (fun later member => session later (List.mem_cons_of_mem _ member)) _)

end Desk

end RealmDesk
