import RealmDesk.Proofs.Editing.Forms
import RealmDesk.Proofs.Saving.Echo

/-!
# Reopening a saved block

A block that was sent and came back reopens with the values that were sent: the echo is folded into
its record, its form is dropped, and a new form reads the values off the record.
-/

namespace RealmDesk

namespace Editor

open Normalized

variable {editor : Editor} {cache : Cache} {block : RecordId}

/-- A block without a form is opened with the values that its record carries. -/
theorem setEditMode_of_carriedBy {input : BlockInput} {record : Record}
    (shown : cache.store.records.view block = some record) (carried : input.CarriedBy record)
    (formless : editor.form? block = none) :
    (editor.setEditMode cache block true).1 = .ok () ∧
      (editor.setEditMode cache block true).2.1.form? block =
        some { values := input.values } := by
  obtain ⟨stored, found, rfl⟩ := Option.map_eq_some_iff.mp shown
  have carried := carried.of_keeps stored.unsignedZeros_keeps
  have kind : stored.blockKind? = some input.kind := by
    rw [Record.blockKind?, carried.typed, BlockKind.ofTypeTag?_typeTag]
  obtain ⟨done, opened⟩ := editor.setEditMode_of_stored found true
  refine ⟨done, ?_⟩
  rw [opened, if_pos rfl, openForm, kind, formless]
  dsimp only
  rw [form?_setForm, if_pos rfl, carried.ofRecord_eq]

/-- A form that is sent is answered by an echo; then no form of the block is left, and the block
reopens with the values that were sent. -/
theorem reopens_as_sent {values : BlockValues} {request : SaveRequest}
    {root : List (String × Json)} {id : String}
    (accepted : (editor.submit cache.store block values).1 = .ok request)
    (orderly : Orderly root) (echoed : request.mutation.EchoedBy root id) :
    ∃ later after,
      (editor.submit cache.store block values).2.complete cache request.ticket
          (.ok (.obj root)) = .ok (.saved block (.persisted id), later, after) ∧
        later.form? block = none ∧ later.form? (.persisted id) = none ∧
        (later.setEditMode after (.persisted id) true).1 = .ok () ∧
        (later.setEditMode after (.persisted id) true).2.1.form? (.persisted id) =
          some { values := values.tidy } := by
  obtain ⟨input, validated, dispatched⟩ := submit_of_ok accepted
  obtain ⟨-, rfl, sent, -, -, asked⟩ := Dispatcher.dispatch_of_ok dispatched
  generalize (editor.submit cache.store request.block values).2 = submitted at sent ⊢
  have standing : submitted.dispatcher.inFlight[request.ticket]? = some request := by
    simp [sent]
  obtain ⟨middle, record, finishes, shown, carried⟩ :=
    Dispatcher.finish_of_echoed asked orderly echoed
  have wrote := wrote_editModeEdit middle (.persisted id) false
  have marked : (middle.update (editModeEdit (.persisted id) false)).2.store.records.view
      (.persisted id) = some (record.set Field.editMode (.scalar (.bool false))) := by
    rw [wrote.view, View.mark, View.set, Function.update_self, shown, Option.map_some]
  have formless (block : RecordId) (dropped : block = request.block ∨ block = .persisted id) :
      (((submitted.settle request.ticket).dropForm request.block).dropForm
        (.persisted id)).form? block = none := by
    rw [form?_dropForm, form?_dropForm]
    rcases dropped with rfl | rfl <;> simp
  have reopened := setEditMode_of_carriedBy marked (carried.of_keeps (record.set_keeps _))
    (formless _ (.inr rfl))
  rw [BlockInput.values_of_validate validated] at reopened
  exact ⟨_, _, complete_of_saved standing finishes, formless _ (.inl rfl), formless _ (.inr rfl),
    reopened⟩

/-- A new block reopens with the series that was chosen, which comes back as an entity. -/
theorem reopens_as_sent_of_created :
    let realm (blocks : List Json) : List (String × Json) :=
      [("id", .str "r"), ("__typename", .str "Realm"), ("blocks", .arr blocks)]
    let series : List (String × Json) := [("id", .str "s"), ("__typename", .str "Series")]
    let block : List (String × Json) := [("id", .str "b"), ("__typename", .str "SeriesBlock"),
      ("series", .obj series), ("order", .str "OLD_TO_NEW"), ("showTitle", .bool true),
      ("showMetadata", .bool false)]
    let root : List (String × Json) := [("addSeriesBlock", .obj (realm [.obj block]))]
    let input : BlockInput := .series "s" .oldToNew true false
    let empty : Cache := ({} : Cache).applySnapshot
      ⟨[(.persisted "r", ⟨realmType, FieldMap.ofList [(Field.blocks, .links [])]⟩)]⟩
    let (_, editor, cache) := Editor.insert {} empty (.persisted "r") 0 .series ∅
    let (result, sent) := editor.submit cache.store (.pending 1) input.values
    result = .ok ⟨1, .pending 1, .create "r" 0 input⟩ ∧ Orderly root ∧
      (Mutation.create "r" 0 input).EchoedBy root "b" ∧
      ∃ later after, sent.complete cache 1 (.ok (.obj root)) =
          .ok (.saved (.pending 1) (.persisted "b"), later, after) ∧
        later.form? (.pending 1) = none ∧ later.form? (.persisted "b") = none ∧
        (later.setEditMode after (.persisted "b") true).1 = .ok () ∧
        (later.setEditMode after (.persisted "b") true).2.1.form? (.persisted "b") =
          some { values := input.values } := by
  intro realm series block root input empty
  have accepted : (((Editor.insert {} empty (.persisted "r") 0 .series ∅).2.1).submit
      (Editor.insert {} empty (.persisted "r") 0 .series ∅).2.2.store (.pending 1)
      input.values).1 = .ok ⟨1, .pending 1, .create "r" 0 input⟩ := by
    decide +kernel
  have met (members : List (String × Json)) :
      MetIn root members ↔ members = realm [.obj block] ∨ members = block ∨ members = series := by
    simp [metIn_iff, met_obj_iff, met_arr_iff, not_met_of_plain, root, realm, block, series,
      isEntity, isHeaderKey, Json.member?]
  have orderly : Orderly root := by
    refine .of_distinct (by simp [root]) (fun members inside => ?_)
      (fun left right id inLeft inRight => ?_)
    · rcases (met members).mp inside with rfl | rfl | rfl <;> simp [realm, block, series]
    · rcases (met left).mp inLeft with rfl | rfl | rfl <;>
        rcases (met right).mp inRight with rfl | rfl | rfl <;>
          simp +contextual [realm, block, series]
  have echoed : input.EchoedBy "b" block := by
    refine ⟨List.mem_cons_self, by decide, fun key sent listed => ?_⟩
    simp only [input, BlockInput.fields, BlockInput.members, List.mem_cons, Prod.mk.injEq,
      List.not_mem_nil, or_false] at listed
    rcases listed with ⟨rfl, rfl⟩ | ⟨rfl, rfl⟩ | ⟨rfl, rfl⟩ | ⟨rfl, rfl⟩
    · exact ⟨.obj series, by decide, .entity "s" series (.inl rfl) List.mem_cons_self⟩
    · exact ⟨_, by decide, .plain _⟩
    · exact ⟨_, by decide, .plain _⟩
    · exact ⟨_, by decide, .plain _⟩
  have listed : (Field.blocks, .arr [.obj block]) ∈ realm [.obj block] := by decide
  have created : (Mutation.create "r" 0 input).EchoedBy root "b" :=
    .created List.mem_cons_self List.mem_cons_self listed rfl rfl echoed
  exact ⟨accepted, orderly, created, reopens_as_sent accepted orderly created⟩

end Editor

end RealmDesk
