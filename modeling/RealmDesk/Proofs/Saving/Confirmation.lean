import RealmDesk.Proofs.Desk.BlockList
import RealmDesk.Proofs.Store.Overlay

/-!
# Confirmations

An answer confirms a mutation if its root field links to the block that was updated, or to an entity
that lists the created block at its index. Nothing else makes a creation count as saved, but an
update counts as saved whatever its answer says: it is confirmed only if the answer links to the
block. What an answer says of a block that it confirms is stored.
-/

namespace RealmDesk

/-- An answer confirms that a mutation saved a block. -/
inductive Mutation.ConfirmedBy (normalized : Normalized) (block : RecordId) : Mutation → Prop where
  /-- The field of the update links to the block. -/
  | updated {id : String} {input : BlockInput} {record : Record}
      (linked : normalized.linked? (Operation.updateBlockField input.kind) = some (block, record)) :
      ConfirmedBy normalized block (.update id input)
  /-- The field of the creation links to an entity that lists the block at its index. -/
  | created {realm : String} {index : Nat} {input : BlockInput} {entity : RecordId}
      {record : Record} {blocks : List RecordId}
      (linked : normalized.linked? (Operation.createBlockField input.kind) = some (entity, record))
      (listed : record.links? Field.blocks = some blocks) (placed : blocks[index]? = some block) :
      ConfirmedBy normalized block (.create realm index input)

/-- A record carries what an answer says of an entity: the type, and each field up to the sign of
zeros, unless it is left out. -/
structure Record.Carries (record incoming : Record) (leftOut : String → Prop) : Prop where
  /-- The type is that of the answer. -/
  tag : record.typeTag = incoming.typeTag
  /-- The fields have the values of the answer. -/
  values : ∀ field value, incoming.get? field = some value → ¬ leftOut field →
    ∃ kept, record.get? field = some kept ∧ kept.Same value

/-- What an answer says of a block is stored, but for the blocks of the realm in which a block was
created. -/
def Mutation.StoredFrom (mutation : Mutation) (normalized : Normalized) (block : RecordId)
    (after : Cache) : Prop :=
  ∃ incoming record, normalized.snapshot.get? block = some incoming ∧
    after.read block = some record ∧
    record.Carries incoming fun field => field = Field.blocks ∧ mutation.realm? = some block

section Merging

variable {view : View} {cache : Cache} {snapshot : Snapshot} {id : RecordId} {incoming : Record}

/-- Whatever a snapshot says of a record is read where it was merged. -/
theorem Cache.exists_carries_of_mergeSnapshot
    (distinct : snapshot.entries.Pairwise fun left right => left.1 ≠ right.1)
    (found : snapshot.get? id = some incoming)
    (merged : cache.store.records.view = view.mergeSnapshot snapshot) :
    ∃ record, cache.read id = some record ∧ record.Carries incoming fun _ => False := by
  obtain ⟨shown, shows, tag, values⟩ := view.exists_mergeSnapshot distinct found
  rw [← merged] at shows
  obtain ⟨record, stored, rfl⟩ := Option.map_eq_some_iff.mp shows
  refine ⟨record, stored, tag, fun field value named _ => ?_⟩
  have zeros := values field value named
  rw [Record.get?_unsignedZeros] at zeros
  exact Option.map_eq_some_iff.mp zeros

end Merging

theorem Record.Carries.of_erase {record incoming : Record} {field : String}
    (carries : record.Carries (incoming.erase field) fun _ => False) :
    record.Carries incoming (· = field) := by
  refine ⟨carries.tag, fun other value named kept => ?_⟩
  refine carries.values other value ?_ id
  rw [get?_erase, if_neg fun same => kept same.symm, named]

theorem Record.Carries.weaken {record incoming : Record} {fewer more : String → Prop}
    (carries : record.Carries incoming fewer) (covers : ∀ field, fewer field → more field) :
    record.Carries incoming more :=
  ⟨carries.tag, fun field value named kept =>
    carries.values field value named fun out => kept (covers field out)⟩

namespace Dispatcher

variable {dispatcher later : Dispatcher} {cache after : Cache} {request : SaveRequest}
  {normalized : Normalized} {block : RecordId}

theorem confirmedBy_of_createdBlock? {realm : String} {index : Nat} {input : BlockInput}
    (named : createdBlock? normalized (Operation.createBlockField input.kind) index = some block) :
    (Mutation.create realm index input).ConfirmedBy normalized block := by
  obtain ⟨⟨entity, record⟩, linked, named⟩ := Option.bind_eq_some_iff.mp named
  obtain ⟨blocks, listed, placed⟩ := Option.bind_eq_some_iff.mp named
  exact .created linked listed placed

theorem storedFrom_of_adopt {view : View} {pending : RecordId} {realm : String} {index : Nat}
    {input : BlockInput} (closed : normalized.snapshot.Closed)
    (named : createdBlock? normalized (Operation.createBlockField input.kind) index = some block)
    (adopted : after.store.records.view =
      view.adopt pending block (.persisted realm) normalized.snapshot) :
    (Mutation.create realm index input).StoredFrom normalized block after := by
  obtain ⟨incoming, found⟩ := Snapshot.exists_get? (mem_of_createdBlock? closed named)
  have stripped := normalized.snapshot.get?_withoutField (.persisted realm) block Field.blocks
  rw [found, Option.map_some] at stripped
  obtain ⟨record, stored, carries⟩ := Cache.exists_carries_of_mergeSnapshot
    (Snapshot.distinct_withoutField closed.distinct _ _) stripped adopted
  refine ⟨incoming, record, found, stored, ?_⟩
  split at carries
  case isTrue own => exact carries.of_erase.weaken fun field same => ⟨same, by rw [own]; rfl⟩
  case isFalse => exact carries.weaken fun _ => False.elim

theorem storedFrom_of_mergeSnapshot {view : View} {id : String} {input : BlockInput}
    (closed : normalized.snapshot.Closed)
    (confirmed : (Mutation.update id input).ConfirmedBy normalized block)
    (merged : after.store.records.view = view.mergeSnapshot normalized.snapshot) :
    (Mutation.update id input).StoredFrom normalized block after := by
  cases confirmed with
  | updated linked =>
      have found := (Normalized.linked?_eq_some.mp linked).2
      obtain ⟨record, stored, carries⟩ :=
        Cache.exists_carries_of_mergeSnapshot closed.distinct found merged
      exact ⟨_, record, found, stored, carries.weaken fun _ => False.elim⟩

/-- An update is confirmed by the answers whose field links to the block. -/
theorem confirmedBy_update_iff {data : Json} {id : String} {input : BlockInput}
    (read : Normalized.ofJson data = .ok normalized) :
    (Mutation.update id input).ConfirmedBy normalized block ↔
      normalized.root[Operation.updateBlockField input.kind]? = some (.link block) := by
  constructor
  · intro confirmed
    cases confirmed with
    | updated linked => exact (Normalized.linked?_eq_some.mp linked).1
  · intro rooted
    have listed := (Normalized.closed_of_ofJson read).2 _ _ rooted block List.mem_cons_self
    obtain ⟨record, found⟩ := Snapshot.exists_get? listed
    exact .updated (Normalized.linked?_eq_some.mpr ⟨rooted, found⟩)

/-- If a block counts as saved after an answer then the answer confirms it, and what it says of the
block is stored: always for a creation, but for an update only if the field of the update links to
the block. -/
theorem confirmed_of_saved {ticket : Nat} {data : Json} {previous : RecordId}
    (completed : dispatcher.complete cache ticket (.ok data) =
      .ok (.saved previous block, later, after)) :
    ∃ request normalized, dispatcher.inFlight[ticket]? = some request ∧
      previous = request.block ∧ Normalized.ofJson data = .ok normalized ∧
      (∀ realm index input, request.mutation = .create realm index input →
        request.mutation.ConfirmedBy normalized block ∧
          request.mutation.StoredFrom normalized block after) ∧
      ∀ id input, request.mutation = .update id input →
        (request.mutation.ConfirmedBy normalized block ∧
            request.mutation.StoredFrom normalized block after ↔
          normalized.root[Operation.updateBlockField input.kind]? = some (.link block)) := by
  obtain ⟨request, found, -, finished⟩ := complete_of_ok completed
  cases finished with
  | updated id input normalized asked read wrote =>
      have read := Normalized.ofResult_ok.mp read
      refine ⟨request, normalized, found, rfl, read, fun realm index input creates => ?_,
        fun id input updates => ?_⟩
      · rw [asked] at creates
        cases creates
      · rw [updates, ← confirmedBy_update_iff read]
        exact ⟨And.left, fun confirmed => ⟨confirmed,
          storedFrom_of_mergeSnapshot (Normalized.closed_of_ofJson read).1 confirmed wrote.view⟩⟩
  | created realm index input normalized saved asked read named present wrote =>
      have read := Normalized.ofResult_ok.mp read
      have closed := (Normalized.closed_of_ofJson read).1
      refine ⟨request, normalized, found, rfl, read, fun _ _ _ _ => ?_, fun id input updates => ?_⟩
      · rw [asked]
        exact ⟨confirmedBy_of_createdBlock? named, storedFrom_of_adopt closed named wrote.view⟩
      · rw [asked] at updates
        cases updates

/-- The answer to an update brings the block, and the store takes over what it says. -/
theorem confirmed_of_saved_of_update :
    let block : RecordId := .persisted "b"
    let request : SaveRequest := ⟨1, block, .update "b" (.title "new")⟩
    let dispatcher : Dispatcher := { inFlight := .ofList [(1, request)], lastTicket := 1 }
    let cache : Cache := ({} : Cache).applySnapshot
      ⟨[(block, ⟨"TitleBlock", .ofList [(Field.content, .scalar (.str "old"))]⟩)]⟩
    let data : Json := .obj [("updateTitleBlock", .obj [("__typename", .str "TitleBlock"),
      ("content", .str "new"), ("id", .str "b")])]
    ∃ later after, dispatcher.complete cache 1 (.ok data) = .ok (.saved block block, later, after) ∧
      ∃ normalized, Normalized.ofJson data = .ok normalized ∧
        normalized.root["updateTitleBlock"]? = some (.link block) ∧
        request.mutation.ConfirmedBy normalized block ∧
        request.mutation.StoredFrom normalized block after := by
  intro block request dispatcher cache data
  have found : dispatcher.inFlight[1]? = some request := by decide +kernel
  have saved : (finish cache request (.ok data)).1 = .saved block block := by decide +kernel
  have completed := complete_of_found found cache (.ok data)
  rw [saved] at completed
  obtain ⟨other, normalized, same, -, read, -, update⟩ := confirmed_of_saved completed
  obtain rfl := Option.some.inj (same.symm.trans found)
  have rooted : (Normalized.ofJson data).map (fun found => found.root["updateTitleBlock"]?) =
      .ok (some (.link block)) := by decide +kernel
  rw [read] at rooted
  have linked : normalized.root["updateTitleBlock"]? = some (.link block) := Except.ok.inj rooted
  have both := (update "b" (.title "new") rfl).mpr linked
  exact ⟨_, _, completed, normalized, read, linked, both⟩

/-- An update counts as saved after an answer that says nothing: no field of the answer links to the
block, and the block is stored as it was before. -/
theorem not_confirmed_of_empty_answer :
    let block : RecordId := .persisted "b"
    let request : SaveRequest := ⟨1, block, .update "b" (.title "new")⟩
    let sent : Dispatcher := { inFlight := .ofList [(1, request)], lastTicket := 1 }
    let cache : Cache := ({} : Cache).applySnapshot
      ⟨[(block, ⟨"TitleBlock", .ofList [(Field.content, .scalar (.str "old"))]⟩)]⟩
    let saving := sent.complete cache 1 (.ok (.obj []))
    Dispatcher.dispatch {} cache.store block (.title "new") = .ok (request, sent) ∧
      saving.map Prod.fst = .ok (.saved block block) ∧
      Normalized.ofJson (.obj []) = .ok ⟨∅, ⟨[]⟩⟩ ∧
      (¬ request.mutation.ConfirmedBy ⟨∅, ⟨[]⟩⟩ block) ∧
      saving.map (fun (_, _, after) => after.read block) = .ok (cache.read block) := by
  intro block request sent cache saving
  refine ⟨by decide +kernel, by decide +kernel, rfl, fun confirmed => ?_, by decide +kernel⟩
  cases confirmed with
  | updated linked => simp [Normalized.linked?_eq_some] at linked

end Dispatcher

end RealmDesk
