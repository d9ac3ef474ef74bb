import RealmDesk.Proofs.Record.Slots
import RealmDesk.Proofs.Saving.Requests

/-!
# What is sent

The server knows the saved blocks of a realm only. A block that it does not know yet is sent with an
index among those, and this index puts the block exactly where its realm lists it, if the other new
blocks are not looked at. The realm, and likewise a block that is updated, is named by the id that
the server gave it.
-/

namespace RealmDesk

/-- The ids that the server gave, in their order. -/
def savedIds (ids : List RecordId) : List RecordId :=
  ids.filter (!·.isPending)

/-- What is asked of the server to save a block with an input. -/
inductive Mutation.Saves (store : Store) (block : RecordId) (input : BlockInput) :
    Mutation → Prop where
  /-- A saved block is updated, and named by its own id. -/
  | update {id : String} {mutation : Mutation} (asked : mutation = .update id input)
      (saved : block = .persisted id)
      (arguments : mutation.operation.arguments =
        .obj [("id", .str id), ("set", input.argument)]) :
      Saves store block input mutation
  /-- A block that was never saved is created in a stored realm that lists it, and the realm is
  named by its own id. With the block inserted at the index, the saved blocks of the realm are in
  the order of its list, in which the block stands where it is listed first. -/
  | create {realm : String} {index : Nat} {mutation : Mutation} {record : Record}
      {front back : List RecordId} (asked : mutation = .create realm index input)
      (unsaved : block.isPending)
      (stored : store.read (.persisted realm) = some record)
      (listed : record.links? Field.blocks = some (front ++ block :: back))
      (first : block ∉ front)
      (placed : (savedIds (front ++ block :: back)).insertIdx index block =
        savedIds front ++ block :: savedIds back)
      (arguments : mutation.operation.arguments =
        .obj [("block", input.argument), ("index", .int index), ("realm", .str realm)]) :
      Saves store block input mutation

/-- An unsaved id goes in among the saved ones behind those that stand in front of it. -/
theorem insertIdx_savedIds {block : RecordId} (unsaved : block.isPending)
    (front back : List RecordId) :
    (savedIds (front ++ block :: back)).insertIdx (savedIds front).length block =
      savedIds front ++ block :: savedIds back := by
  have skipped : savedIds (front ++ block :: back) = savedIds front ++ savedIds back := by
    simp [savedIds, unsaved]
  have fresh : block ∉ savedIds (front ++ block :: back) := by
    simp [savedIds, unsaved]
  have within : (savedIds front).length ≤ (savedIds (front ++ block :: back)).length := by
    rw [skipped, List.length_append]
    omega
  exact ((append_eq_insertIdx_iff within fresh).mpr ⟨skipped.symm, rfl⟩).symm

theorem Store.exists_links?_of_blocks {store : Store} {id block : RecordId}
    {front back : List RecordId}
    (listed : store.records.view.blocks id = front ++ block :: back) :
    ∃ record, store.read id = some record ∧
      record.links? Field.blocks = some (front ++ block :: back) := by
  cases stored : store.read id with
  | none =>
      have absent : store.records[id]? = none := stored
      simp [View.blocks, Records.view, absent] at listed
  | some record =>
      have present : store.records[id]? = some record := stored
      refine ⟨record, rfl, ?_⟩
      cases list : record.links? Field.blocks with
      | none => simp [View.blocks, Records.view, present, Record.links, list] at listed
      | some blocks =>
          simpa [View.blocks, Records.view, present, Record.links, list] using listed

/-- The server can be told where a block is: the block was saved, or the first record that links to
it was, and lists it. -/
inductive Store.Places (store : Store) : RecordId → Prop where
  /-- A saved block is named itself. -/
  | saved {id : String} : Places store (.persisted id)
  /-- A new block is named by its place in a saved record. -/
  | listed {number : Nat} {realm : String} {record : Record}
      (first : (store.referrers (.pending number) Field.blocks).head? = some (.persisted realm))
      (stored : store.read (.persisted realm) = some record)
      (listed : .pending number ∈ record.links Field.blocks) : Places store (.pending number)

namespace Dispatcher

theorem exists_mutationFor_iff {store : Store} {block : RecordId} (input : BlockInput) :
    (∃ mutation, mutationFor store block input = .ok mutation) ↔ store.Places block := by
  cases block with
  | persisted id => exact iff_of_true ⟨_, rfl⟩ .saved
  | pending number =>
      rw [mutationFor]
      constructor
      · rintro ⟨mutation, asked⟩
        cases located : position store (.pending number) with
        | error error => simp [located] at asked
        | ok place =>
            obtain ⟨realm, index⟩ := place
            cases realm with
            | pending => simp [located] at asked
            | persisted realm =>
                obtain ⟨first, record, stored, listed⟩ := exists_position_iff.mp ⟨index, located⟩
                exact .listed first stored listed
      · intro placed
        cases placed with
        | listed first stored listed =>
            obtain ⟨index, located⟩ := exists_position_iff.mpr ⟨first, _, stored, listed⟩
            rw [located]
            exact ⟨_, rfl⟩

variable {dispatcher : Dispatcher} {store : Store} {block : RecordId} {input : BlockInput}

/-- A block is sent unless it is being sent already, is not stored or has no place. -/
theorem exists_dispatch_iff :
    (∃ request later, dispatcher.dispatch store block input = .ok (request, later)) ↔
      dispatcher.isInFlight block = false ∧ (store.read block).isSome ∧ store.Places block := by
  constructor
  · rintro ⟨request, later, sent⟩
    obtain ⟨-, -, -, free, stored, asked⟩ := dispatch_of_ok sent
    rw [Records.view, Option.isSome_map] at stored
    exact ⟨free, stored, (exists_mutationFor_iff input).mp ⟨_, asked⟩⟩
  · rintro ⟨free, stored, placed⟩
    obtain ⟨mutation, asked⟩ := (exists_mutationFor_iff input).mpr placed
    have present : store.contains block = true :=
      Std.ExtTreeMap.mem_iff_isSome_getElem?.mpr stored
    simp [dispatch, free, present, asked]

theorem saves_of_mutationFor {mutation : Mutation}
    (asked : mutationFor store block input = .ok mutation) :
    mutation.Saves store block input := by
  rcases mutationFor_of_ok asked with ⟨id, saved, rfl⟩ |
    ⟨realm, front, back, listed, first, unsaved, rfl⟩
  · apply Mutation.Saves.update rfl saved
    simp only [Mutation.operation, Operation.updateBlock, Json.object, List.foldl_cons,
      List.foldl_nil, Json.insertMember, String.reduceLT, String.reduceEq, reduceIte]
  · obtain ⟨record, stored, list⟩ := Store.exists_links?_of_blocks listed
    apply Mutation.Saves.create rfl unsaved stored list first
      (insertIdx_savedIds unsaved front back)
    simp only [Mutation.operation, Operation.createBlock, Json.object, List.foldl_cons,
      List.foldl_nil, Json.insertMember, String.reduceLT, String.reduceEq, reduceIte]

/-- A stored block that is not being sent and has a place is sent, and no other one is. Whatever is
sent saves the block that was asked for: a saved block is updated, and a new one is created in a
stored realm at the index that keeps the order of its list. The variables name the block or the
realm by the id that the server gave it. -/
theorem saves_of_dispatch (dispatcher : Dispatcher) (store : Store) (block : RecordId)
    (input : BlockInput) :
    ((∃ request later, dispatcher.dispatch store block input = .ok (request, later)) ↔
        dispatcher.isInFlight block = false ∧ (store.read block).isSome ∧ store.Places block) ∧
      ∀ request later, dispatcher.dispatch store block input = .ok (request, later) →
        request.block = block ∧ request.mutation.Saves store block input := by
  refine ⟨exists_dispatch_iff, ?_⟩
  intro request later sent
  obtain ⟨-, same, -, -, -, asked⟩ := dispatch_of_ok sent
  exact ⟨same, saves_of_mutationFor asked⟩

/-- Among other new blocks, and behind a saved one, a new block is sent with index one. -/
theorem saves_of_dispatch_among_new :
    let block : RecordId := .pending 1
    let store : Store := { records := .ofList [
      (.persisted "r", Record.mk "Realm" (.ofList [(Field.blocks, .links
        [.pending 3, .persisted "a", .pending 2, block, .persisted "b", block])])),
      (block, Record.mk "TitleBlock" ∅)] }
    let request : SaveRequest := ⟨1, block, .create "r" 1 (.title "new")⟩
    ∃ later, Dispatcher.dispatch {} store block (.title "new") = .ok (request, later) ∧
      request.mutation.Saves store block (.title "new") := by
  intro block store request
  have sent : Dispatcher.dispatch {} store block (.title "new") =
      .ok (request, { inFlight := .ofList [(1, request)], lastTicket := 1 }) := by
    decide +kernel
  obtain ⟨-, saves⟩ := saves_of_dispatch {} store block (.title "new")
  exact ⟨_, sent, (saves request _ sent).2⟩

end Dispatcher

end RealmDesk
