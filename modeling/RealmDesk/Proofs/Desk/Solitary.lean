import RealmDesk.Proofs.Desk.Tended
import RealmDesk.Proofs.Record.Slots

/-!
# What happens at the desk alone

As long as nothing arrives from the server, a list of blocks changes in two ways only, if its realm
is still there: a new pending id is inserted, or a pending id without a request in flight is taken
out. One request at most is handed out.
-/

namespace RealmDesk

namespace Desk

/-- An event that brings nothing from the server: no records arrive, and blocks are sent by the
editor. -/
def Event.Solitary : Event → Prop
  | .resolve _ (.ok _) | .complete _ (.ok _) => False
  | .dispatch .. | .finish .. | .addChild .. | .merge .. | .update .. => False
  | _ => True

instance : (event : Event) → Decidable event.Solitary
  | .resolve _ (.ok _) | .complete _ (.ok _) => .isFalse id
  | .dispatch .. | .finish .. | .addChild .. | .merge .. | .update .. => .isFalse id
  | .resolve _ (.error _) | .complete _ (.error _) => .isTrue trivial
  | .navigate .. | .reload | .insert .. | .setEditMode .. | .updateForm .. | .submit .. |
    .cancel .. | .prune | .subscribe .. | .unsubscribe .. | .retain .. | .release .. |
    .collectGarbage => .isTrue trivial

/-- What becomes of a list of blocks without the server. -/
inductive Rearranged (desk : Desk) (blocks : List RecordId) : List RecordId → Prop where
  /-- The list stays as it is. -/
  | same : Rearranged desk blocks blocks
  /-- The next pending id is inserted. -/
  | inserted (index : Nat) (within : index ≤ blocks.length) :
      Rearranged desk blocks
        (blocks.insertIdx index (.pending (desk.cache.store.lastPending + 1)))
  /-- A pending id without a request in flight is taken out. -/
  | removed (number : Nat) (free : desk.editor.dispatcher.isInFlight (.pending number) = false) :
      Rearranged desk blocks (blocks.filter (· != .pending number))

/-- What becomes of the requests of the editor without the server. -/
inductive Resent (before after : Desk) : Prop where
  /-- None is handed out. -/
  | fewer (older : ∀ (ticket : Nat) (request : SaveRequest),
        after.editor.dispatcher.inFlight[ticket]? = some request →
          before.editor.dispatcher.inFlight[ticket]? = some request)
      (lastTicket : after.editor.dispatcher.lastTicket = before.editor.dispatcher.lastTicket)
  /-- One is handed out, and nothing else happens. -/
  | sent (block : RecordId) (input : BlockInput) (request : SaveRequest)
      (cache : after.cache = before.cache)
      (dispatched : before.editor.dispatcher.dispatch before.cache.store block input =
        .ok (request, after.editor.dispatcher))

/-- What becomes of a saved realm and of the requests without the server. -/
structure Alone (realm : String) (before after : Desk) : Prop where
  /-- No pending id is given out twice. -/
  counted : before.cache.store.lastPending ≤ after.cache.store.lastPending
  /-- If the realm is there, it was there, and its list was rearranged. -/
  kept : (after.view (.persisted realm)).isSome →
    (before.view (.persisted realm)).isSome ∧
      Rearranged before (before.view.blocks (.persisted realm))
        (after.view.blocks (.persisted realm))
  /-- One request at most was handed out. -/
  resent : Resent before after

variable {desk after : Desk} {realm : String}

theorem resent_of_dispatcher_eq (same : after.editor.dispatcher = desk.editor.dispatcher) :
    Resent desk after :=
  .fewer (fun ticket request standing => by rwa [same] at standing) (by rw [same])

theorem Alone.of_tidied (tidied : desk.cache.Tidied after.cache)
    (same : after.editor.dispatcher = desk.editor.dispatcher) : Alone realm desk after := by
  refine ⟨Nat.le_of_eq tidied.lastPending.symm, fun present => ?_, resent_of_dispatcher_eq same⟩
  have shown : after.view (.persisted realm) = desk.view (.persisted realm) :=
    tidied.view_eq present
  rw [shown] at present
  refine ⟨present, ?_⟩
  rw [show after.view.blocks (.persisted realm) = desk.view.blocks (.persisted realm) by
    rw [View.blocks, View.blocks, shown]]
  exact .same

theorem Alone.of_wrote {view : View} {lastPending : Nat}
    (wrote : desk.cache.Wrote after.cache view lastPending)
    (grown : desk.cache.store.lastPending ≤ lastPending)
    (same : after.editor.dispatcher = desk.editor.dispatcher)
    (kept : (view (.persisted realm)).isSome →
      (desk.view (.persisted realm)).isSome ∧
        Rearranged desk (desk.view.blocks (.persisted realm)) (view.blocks (.persisted realm))) :
    Alone realm desk after := by
  refine ⟨wrote.lastPending_eq ▸ grown, ?_, resent_of_dispatcher_eq same⟩
  rw [show after.view = view from wrote.view]
  exact kept

theorem alone_insert (desk : Desk) (target : RecordId) (index : Nat) (kind : BlockKind)
    (defaults : FieldMap) :
    Alone realm desk (desk.step (.insert target index kind defaults)).2 := by
  obtain ⟨same, ⟨-, -, -, within, wrote⟩ |
    ⟨error, lastPending, -, grown, wrote⟩⟩ :=
      desk.editor.insert_cases desk.cache target index kind defaults
  · refine .of_wrote wrote (Nat.le_succ _) same fun stored => ?_
    have present : (desk.view (.persisted realm)).isSome :=
      ((View.isSome_place ..).mp stored).resolve_left nofun
    refine ⟨present, ?_⟩
    by_cases equal : .persisted realm = target
    · subst equal
      rw [View.blocks_place_self present]
      exact .inserted index within
    · have notBlock : .persisted realm ≠
          RecordId.pending (desk.cache.store.lastPending + 1) := nofun
      rw [View.blocks_place_of_ne equal notBlock]
      exact .same
  · exact .of_wrote wrote grown same fun stored => ⟨stored, .same⟩

theorem alone_marked {block : RecordId} {on : Bool}
    (wrote : desk.cache.Wrote after.cache (desk.view.mark block on) desk.cache.store.lastPending)
    (same : after.editor.dispatcher = desk.editor.dispatcher) : Alone realm desk after := by
  refine .of_wrote wrote (Nat.le_refl _) same fun stored => ?_
  rw [View.mark, View.isSome_set] at stored
  rw [View.mark, View.blocks_set_of_ne (by decide)]
  exact ⟨stored, .same⟩

theorem alone_submit (desk : Desk) (block : RecordId) (values : BlockValues) :
    Alone realm desk (desk.step (.submit block values)).2 := by
  refine ⟨Nat.le_refl _, fun stored => ⟨stored, .same⟩, ?_⟩
  rcases desk.editor.submit_cases desk.cache.store block values with
    ⟨-, -, same⟩ | ⟨request, input, -, sent⟩
  · exact resent_of_dispatcher_eq same
  · exact .sent block input request rfl sent

theorem alone_failed (desk : Desk) (ticket : Nat) (error : ApiError) :
    Alone realm desk (desk.step (.complete ticket (.error error))).2 := by
  cases standing : desk.editor.dispatcher.inFlight[ticket]? with
  | none =>
      rw [complete_of_absent standing]
      exact .of_tidied (.refl desk.cache) rfl
  | some request =>
      obtain ⟨outcome, middle, answered⟩ := answered_of_standing standing (.error error)
      have isSome := answered.isSome (.persisted realm)
      have blocks := answered.blocks (.persisted realm)
      have dispatcher := answered.dispatcher
      cases answered.finished with
      | updated id input normalized asked read => cases read
      | created text index input normalized saved asked read => cases read
      | refused problem wrote reason =>
          rw [wrote.view] at isSome blocks
          refine ⟨Nat.le_of_eq answered.lastPending.symm, fun stored => ⟨isSome ▸ stored, ?_⟩,
            .fewer (fun number other flying => ?_) (by rw [dispatcher])⟩
          · rw [blocks]
            exact .same
          · rw [dispatcher] at flying
            exact sent_of_erase flying

theorem alone_cancel (desk : Desk) (block : RecordId) (confirmed : Bool) :
    Alone realm desk (desk.step (.cancel block confirmed)).2 := by
  obtain ⟨same, ⟨realms, -, free, pending, named, wrote⟩ | ⟨-, next, rfl | rfl, wrote⟩⟩ :=
    desk.editor.cancel_cases desk.cache block confirmed
  · refine .of_wrote wrote (Nat.le_refl _) same fun stored => ?_
    obtain ⟨different, stored⟩ := (View.isSome_remove ..).mp stored
    refine ⟨stored, ?_⟩
    rw [View.blocks_remove named different]
    obtain ⟨number, rfl⟩ := RecordId.exists_eq_pending pending
    exact .removed number free
  · exact .of_wrote wrote (Nat.le_refl _) same fun stored => ⟨stored, .same⟩
  · exact alone_marked wrote same

/-- What happens at the desk alone rearranges the list of a saved realm that is still there. -/
theorem alone_step {event : Event} (solitary : event.Solitary) (desk : Desk) (realm : String) :
    Alone realm desk (desk.step event).2 := by
  cases event with
  | navigate url => exact .of_tidied (Navigator.tidied_navigate ..) rfl
  | reload => exact .of_tidied (Navigator.tidied_reload ..) rfl
  | resolve generation result =>
      cases result with
      | ok data => exact solitary.elim
      | error error =>
          rcases desk.navigator.resolve_cases desk.cache generation (.error error) with
            ⟨-, same⟩ | ⟨-, ⟨normalized, middle, read, -, -⟩ | ⟨-, tidied⟩⟩
          · refine .of_tidied ?_ rfl
            change desk.cache.Tidied
              (desk.navigator.resolve desk.cache generation (.error error)).2.2
            rw [same]
            exact .refl desk.cache
          · cases read
          · exact .of_tidied tidied rfl
  | insert target index kind defaults => exact alone_insert desk target index kind defaults
  | setEditMode block on =>
      obtain ⟨wrote, same⟩ := desk.editor.setEditMode_wrote desk.cache block on
      exact alone_marked wrote same
  | updateForm block values =>
      cases form : desk.editor.form? block with
      | none =>
          simp only [step, Editor.updateForm, form]
          exact .of_tidied (.refl desk.cache) rfl
      | some present =>
          simp only [step, Editor.updateForm, form]
          exact .of_tidied (.refl desk.cache) rfl
  | submit block values => exact alone_submit desk block values
  | complete ticket result =>
      cases result with
      | ok data => exact solitary.elim
      | error error => exact alone_failed desk ticket error
  | cancel block confirmed => exact alone_cancel desk block confirmed
  | prune => exact .of_tidied (.refl desk.cache) rfl
  | subscribe record selection => exact .of_tidied (.of_records rfl rfl rfl) rfl
  | unsubscribe number => exact .of_tidied (.of_records rfl rfl rfl) rfl
  | retain roots => exact .of_tidied (.retain desk.cache roots) rfl
  | release token => exact .of_tidied (.release desk.cache token) rfl
  | collectGarbage => exact .of_tidied (.collectGarbage desk.cache) rfl
  | _ => exact solitary.elim

theorem Event.Solitary.inSession {event : Event} (solitary : event.Solitary) :
    event.InSession fun _ => True := by
  cases event with
  | merge | update => exact solitary.elim
  | _ => trivial

end Desk

end RealmDesk
