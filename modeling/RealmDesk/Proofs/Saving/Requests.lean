import RealmDesk.Proofs.Answer.Closure
import RealmDesk.Proofs.Store.Changes
import RealmDesk.Proofs.Store.Update
import RealmDesk.Saving.Dispatcher

/-!
# Requests and their answers

A request to create a block names the first record that lists the block, and counts the saved
blocks in front of it. An answer that is accepted merges its records and, for a created block, puts
the id of the server into the slot of the pending id; an answer that is refused writes nothing.
-/

namespace RealmDesk

theorem Normalized.linked?_eq_some {normalized : Normalized} {field : String} {id : RecordId}
    {record : Record} : normalized.linked? field = some (id, record) ↔
      normalized.root[field]? = some (.link id) ∧ normalized.snapshot.get? id = some record := by
  have link {value : FieldValue} : value.link? = some id ↔ value = .link id := by
    cases value <;> simp [FieldValue.link?]
  simp only [linked?, Option.bind_eq_bind, Option.bind_eq_some_iff, Option.pure_def,
    Option.some.injEq, Prod.mk.injEq]
  constructor
  · rintro ⟨value, rooted, other, linked, found, present, rfl, rfl⟩
    exact ⟨link.mp linked ▸ rooted, present⟩
  · rintro ⟨rooted, present⟩
    exact ⟨_, rooted, id, rfl, record, present, rfl, rfl⟩

theorem Normalized.mem_entries_of_linked? {normalized : Normalized} {field : String}
    {id : RecordId} {record : Record} (linked : normalized.linked? field = some (id, record)) :
    (id, record) ∈ normalized.snapshot.entries :=
  Snapshot.mem_of_get? (linked?_eq_some.mp linked).2

namespace Dispatcher

private theorem split_of_idxOf? {blocks : List RecordId} {block : RecordId} {slot : Nat}
    (standing : blocks.idxOf? block = some slot) :
    ∃ back, blocks = blocks.take slot ++ block :: back ∧ block ∉ blocks.take slot := by
  obtain ⟨bound, equal, earlier⟩ := List.idxOf?_eq_some_iff.mp standing
  refine ⟨blocks.drop (slot + 1), ?_, fun member => ?_⟩
  · conv_lhs => rw [← List.take_append_drop slot blocks, List.drop_eq_getElem_cons bound, equal]
  · obtain ⟨place, before, same⟩ := List.mem_take_iff_getElem.mp member
    exact earlier place (Nat.lt_of_lt_of_le before (Nat.min_le_left _ _)) same

/-- The position of a block is its place among the saved blocks of a record that lists it. -/
theorem position_of_ok {store : Store} {block realm : RecordId} {index : Nat}
    (found : position store block = .ok (realm, index)) :
    ∃ front back, store.records.view.blocks realm = front ++ block :: back ∧ block ∉ front ∧
      index = (front.filter (!·.isPending)).length := by
  rw [position] at found
  split at found
  case h_2 => cases found
  case h_1 at? located =>
    obtain rfl := Except.ok.inj found
    obtain ⟨realm, first, located⟩ := Option.bind_eq_some_iff.mp located
    obtain ⟨record, present, located⟩ := Option.bind_eq_some_iff.mp located
    obtain ⟨blocks, list, located⟩ := Option.bind_eq_some_iff.mp located
    obtain ⟨slot, standing, same⟩ := Option.bind_eq_some_iff.mp located
    obtain ⟨rfl, rfl⟩ := Prod.mk.inj (Option.some.inj same)
    have listed : store.records.view.blocks realm = blocks := by
      simp [View.blocks, Records.view, show store.records[realm]? = some record from present,
        Record.links, list]
    obtain ⟨back, split, earlier⟩ := split_of_idxOf? standing
    exact ⟨blocks.take slot, back, listed.trans split, earlier, rfl⟩

/-- A block has a position exactly if the first record that links to it lists it. -/
theorem exists_position_iff {store : Store} {block realm : RecordId} :
    (∃ index, position store block = .ok (realm, index)) ↔
      (store.referrers block Field.blocks).head? = some realm ∧
        ∃ record, store.read realm = some record ∧ block ∈ record.links Field.blocks := by
  constructor
  · rintro ⟨index, found⟩
    rw [position] at found
    split at found
    case h_2 => cases found
    case h_1 place located =>
      obtain rfl := Except.ok.inj found
      obtain ⟨first, leading, located⟩ := Option.bind_eq_some_iff.mp located
      obtain ⟨record, present, located⟩ := Option.bind_eq_some_iff.mp located
      obtain ⟨blocks, list, located⟩ := Option.bind_eq_some_iff.mp located
      obtain ⟨slot, standing, same⟩ := Option.bind_eq_some_iff.mp located
      obtain ⟨rfl, -⟩ := Prod.mk.inj (Option.some.inj same)
      have listed : block ∈ blocks := by
        rw [← List.isSome_idxOf?, standing]
        rfl
      refine ⟨leading, record, present, ?_⟩
      rw [Record.links, list]
      exact listed
  · rintro ⟨leading, record, present, listed⟩
    cases list : record.links? Field.blocks with
    | none => simp [Record.links, list] at listed
    | some blocks =>
        rw [Record.links, list, Option.getD_some] at listed
        obtain ⟨slot, standing⟩ : ∃ slot, blocks.idxOf? block = some slot := by
          rw [← Option.isSome_iff_exists, List.isSome_idxOf?]
          exact listed
        refine ⟨((blocks.take slot).filter (!·.isPending)).length, ?_⟩
        simp only [position, leading, present, list, standing, Option.bind_eq_bind,
          Option.bind_some, Option.pure_def]

/-- What a request asks for: a saved block is updated, a new one is created in a saved realm that
lists it, behind the saved blocks in front of it. -/
theorem mutationFor_of_ok {store : Store} {block : RecordId} {input : BlockInput}
    {mutation : Mutation} (found : mutationFor store block input = .ok mutation) :
    (∃ id, block = .persisted id ∧ mutation = .update id input) ∨
      ∃ realm front back, store.records.view.blocks (.persisted realm) = front ++ block :: back ∧
        block ∉ front ∧ block.isPending ∧
        mutation = .create realm (front.filter (!·.isPending)).length input := by
  cases block with
  | persisted id =>
      exact .inl ⟨id, rfl, (Except.ok.inj found).symm⟩
  | pending number =>
      rw [mutationFor] at found
      cases located : position store (.pending number) with
      | error error => simp [located] at found
      | ok place =>
          obtain ⟨realm, index⟩ := place
          cases realm with
          | pending => simp [located] at found
          | persisted realm =>
              obtain ⟨front, back, split, earlier, rfl⟩ := position_of_ok located
              simp only [located, Except.ok.injEq] at found
              exact .inr ⟨realm, front, back, split, earlier, rfl, found.symm⟩

variable {dispatcher later : Dispatcher}

theorem isInFlight_eq_false {block : RecordId} :
    dispatcher.isInFlight block = false ↔
      ∀ (ticket : Nat) (request : SaveRequest), dispatcher.inFlight[ticket]? = some request →
        request.block ≠ block := by
  simp only [isInFlight, List.any_eq_false, beq_iff_eq, mem_values]
  constructor
  · intro free ticket request found
    exact free request ⟨ticket, found⟩
  · rintro free request ⟨ticket, found⟩
    exact free ticket request found

/-- A request that is handed out has the next ticket, for a stored block without another one. -/
theorem dispatch_of_ok {store : Store} {block : RecordId} {input : BlockInput}
    {request : SaveRequest}
    (sent : dispatcher.dispatch store block input = .ok (request, later)) :
    request.ticket = dispatcher.lastTicket + 1 ∧ request.block = block ∧
      later = ⟨dispatcher.inFlight.insert request.ticket request, request.ticket⟩ ∧
      dispatcher.isInFlight block = false ∧ (store.records.view block).isSome ∧
      mutationFor store block input = .ok request.mutation := by
  rw [dispatch] at sent
  split at sent
  case isTrue => cases sent
  case isFalse free =>
    split at sent
    case isTrue => cases sent
    case isFalse stored =>
      cases found : mutationFor store block input with
      | error error => simp [found] at sent
      | ok mutation =>
          simp only [found, Except.ok.injEq, Prod.mk.injEq] at sent
          obtain ⟨rfl, rfl⟩ := sent
          have present : block ∈ store.records := by simpa [Store.contains] using stored
          exact ⟨rfl, rfl, rfl, by simpa using free, Records.isSome_view.mpr present, rfl⟩

/-- Where the realm is stored, its list adopts the id of the server. -/
theorem update_reconcile_of_stored {cache : Cache} {realm : RecordId}
    (present : (cache.store.records.view realm).isSome) (pending saved : RecordId)
    (snapshot : Snapshot) :
    (cache.update (reconcile pending saved realm snapshot)).1 = .ok () ∧
      cache.Wrote (cache.update (reconcile pending saved realm snapshot)).2
        (cache.store.records.view.adopt pending saved realm snapshot)
        cache.store.lastPending := by
  obtain ⟨record, found⟩ : ∃ record, cache.draft.get? realm = some record := by
    rw [Draft.get?_start]
    exact Option.isSome_iff_exists.mp (by simpa [Records.view] using present)
  have shown := Cache.view_eq_some found
  have listed : cache.store.records.view.blocks realm = record.links Field.blocks := by
    simp [View.blocks, shown]
  have swapped := Edit.run_setLinks_of_present Field.blocks
    ((record.links Field.blocks).replace pending saved) found
  generalize staged : cache.draft.stage realm _ = replaced at swapped
  have ran : (reconcile pending saved realm snapshot).run cache.draft =
      (.ok (), (replaced.stage pending none).mergeSnapshot
        (snapshot.withoutField realm Field.blocks)) := by
    rw [reconcile, Edit.run_bind_of_ok _ (Edit.run_links_of_present Field.blocks found),
      Edit.run_bind_of_ok _ swapped, Edit.run_bind_of_ok _ (Edit.run_delete pending _),
      Edit.run_mergeSnapshot]
  obtain ⟨base, counter, merged⟩ := Draft.mergeSnapshot_frame (replaced.stage pending none)
    (snapshot.withoutField realm Field.blocks)
  rw [← staged] at base counter merged ran
  obtain ⟨done, wrote⟩ := Cache.wrote_of_ok ran base
  rw [counter] at wrote
  refine ⟨done, wrote.view.trans ?_, wrote.rest, wrote.published⟩
  rw [merged, Draft.view_stage, Draft.view_stage, Draft.view_start, View.adopt, View.setBlocks,
    View.set, listed, shown, Option.map_some, Option.map_some, Record.unsignedZeros_update]
  rfl

theorem update_reconcile_of_absent {cache : Cache} {realm : RecordId}
    (absent : cache.store.records.view realm = none) (pending saved : RecordId)
    (snapshot : Snapshot) :
    cache.update (reconcile pending saved realm snapshot) = (.error (.missing realm), cache) := by
  have missing : cache.draft.get? realm = none := by
    rw [Draft.get?_start]
    simpa [Records.view] using absent
  have ran : (reconcile pending saved realm snapshot).run cache.draft =
      (.error (.missing realm), cache.draft) := by
    rw [reconcile, Edit.run_bind_of_error _ (Edit.run_links_of_absent Field.blocks missing)]
  exact Cache.update_of_error ran rfl

/-- What the answer to a request comes to: it is refused and writes nothing, or its records are
merged, or its block adopts the id of the server. -/
inductive Finished (cache : Cache) (request : SaveRequest) (result : ApiResult Json)
    (after : Cache) : SaveOutcome → Prop where
  /-- The answer is refused: it holds no records, or no new block, or the realm is gone. -/
  | refused (error : ApiError)
      (wrote : cache.Wrote after cache.store.records.view cache.store.lastPending)
      (reason : ∀ normalized, Normalized.ofResult result = .ok normalized →
        ∃ realm index input, request.mutation = .create realm index input ∧
          (createdBlock? normalized (Operation.createBlockField input.kind) index = none ∨
            cache.store.records.view (.persisted realm) = none)) :
      Finished cache request result after (.failed request.block error)
  /-- A saved block is updated. -/
  | updated (id : String) (input : BlockInput) (normalized : Normalized)
      (asked : request.mutation = .update id input)
      (read : Normalized.ofResult result = .ok normalized)
      (wrote : cache.Wrote after (cache.store.records.view.mergeSnapshot normalized.snapshot)
        cache.store.lastPending) :
      Finished cache request result after (.saved request.block request.block)
  /-- A new block is created. -/
  | created (realm : String) (index : Nat) (input : BlockInput) (normalized : Normalized)
      (saved : RecordId) (asked : request.mutation = .create realm index input)
      (read : Normalized.ofResult result = .ok normalized)
      (named : createdBlock? normalized (Operation.createBlockField input.kind) index = some saved)
      (present : (cache.store.records.view (.persisted realm)).isSome)
      (wrote : cache.Wrote after
        (cache.store.records.view.adopt request.block saved (.persisted realm)
          normalized.snapshot) cache.store.lastPending) :
      Finished cache request result after (.saved request.block saved)

theorem finished (cache : Cache) (request : SaveRequest) (result : ApiResult Json) :
    Finished cache request result (finish cache request result).2
      (finish cache request result).1 := by
  rw [finish]
  cases read : Normalized.ofResult result with
  | error error =>
      exact .refused error (.refl cache) (by simp [read])
  | ok normalized =>
      dsimp only
      cases asked : request.mutation with
      | update id input =>
          rw [apply, asked]
          exact .updated id input normalized asked read
            (cache.wrote_applySnapshot normalized.snapshot)
      | create realm index input =>
          rw [apply, asked]
          dsimp only
          cases named : createdBlock? normalized (Operation.createBlockField input.kind) index with
          | none =>
              refine .refused _ (.refl cache) fun other same => ?_
              obtain rfl : normalized = other := by simpa [read] using same
              exact ⟨realm, index, input, asked, .inl named⟩
          | some saved =>
              cases present : cache.store.records.view (.persisted realm) with
              | none =>
                  dsimp only
                  rw [update_reconcile_of_absent present]
                  refine .refused _ (.refl cache) fun other same => ?_
                  exact ⟨realm, index, input, asked, .inr present⟩
              | some record =>
                  have stored : (cache.store.records.view (.persisted realm)).isSome := by
                    simp [present]
                  obtain ⟨done, wrote⟩ := update_reconcile_of_stored stored request.block saved
                    normalized.snapshot
                  dsimp only
                  rw [show cache.update _ = (_, _) from Prod.ext done rfl]
                  exact .created realm index input normalized saved asked read named stored wrote

theorem complete_of_found {ticket : Nat} {request : SaveRequest}
    (found : dispatcher.inFlight[ticket]? = some request) (cache : Cache)
    (result : ApiResult Json) :
    dispatcher.complete cache ticket result =
      .ok ((finish cache request result).1,
        { dispatcher with inFlight := dispatcher.inFlight.erase ticket },
        (finish cache request result).2) := by
  rw [complete, found]

theorem exists_of_complete {cache after : Cache} {ticket : Nat} {result : ApiResult Json}
    {outcome : SaveOutcome}
    (completed : dispatcher.complete cache ticket result = .ok (outcome, later, after)) :
    ∃ request, dispatcher.inFlight[ticket]? = some request ∧
      later = { dispatcher with inFlight := dispatcher.inFlight.erase ticket } ∧
      finish cache request result = (outcome, after) := by
  cases found : dispatcher.inFlight[ticket]? with
  | none => simp [complete, found] at completed
  | some request =>
      simp only [complete_of_found found, Except.ok.injEq, Prod.mk.injEq] at completed
      obtain ⟨rfl, rfl, rfl⟩ := completed
      exact ⟨request, rfl, rfl, rfl⟩

theorem complete_of_ok {cache after : Cache} {ticket : Nat} {result : ApiResult Json}
    {outcome : SaveOutcome}
    (completed : dispatcher.complete cache ticket result = .ok (outcome, later, after)) :
    ∃ request, dispatcher.inFlight[ticket]? = some request ∧
      later = { dispatcher with inFlight := dispatcher.inFlight.erase ticket } ∧
      Finished cache request result after outcome := by
  obtain ⟨request, found, settled, finishes⟩ := exists_of_complete completed
  have settles := finished cache request result
  rw [finishes] at settles
  exact ⟨request, found, settled, settles⟩

theorem mem_of_createdBlock? {normalized : Normalized} {field : String} {index : Nat}
    {saved : RecordId} (closed : normalized.snapshot.Closed)
    (named : createdBlock? normalized field index = some saved) :
    saved ∈ normalized.snapshot.entries.map Prod.fst := by
  obtain ⟨⟨id, record⟩, linked, named⟩ := Option.bind_eq_some_iff.mp named
  obtain ⟨blocks, list, standing⟩ := Option.bind_eq_some_iff.mp named
  refine closed.linked _ (Normalized.mem_entries_of_linked? linked) Field.blocks saved ?_
  refine Record.linksTo_of_mem_links ?_
  simpa [Record.links, list] using List.mem_of_getElem? standing

end Dispatcher

end RealmDesk
