import RealmDesk.Proofs.Answer.Entities
import RealmDesk.Proofs.Editing.Values
import RealmDesk.Proofs.Saving.Requests
import RealmDesk.Proofs.Store.Overlay

/-!
# Echoes of mutations

The server answers a mutation with the block as it is saved: an update with the block itself, a
creation with the realm that lists the block at the index asked for. Such an echo is folded into
the store as a record that carries the input, and a created block is found under its new id.
-/

namespace RealmDesk

/-- A value as it comes back: a series or a video may come back as an entity with the id. -/
inductive BlockInput.Returned (key : String) : Json → Json → Prop where
  /-- The value itself. -/
  | plain (sent : Json) : Returned key sent sent
  /-- The series or the video with the id. -/
  | entity (id : String) (members : List (String × Json))
      (links : key = Field.series ∨ key = Field.event) (named : ("id", .str id) ∈ members) :
      Returned key (.str id) (.obj members)

/-- The members of an entity echo an input: they have the id and the type of the block, and bring
its fields back. -/
structure BlockInput.EchoedBy (input : BlockInput) (id : String)
    (members : List (String × Json)) : Prop where
  /-- The entity is the block. -/
  named : ("id", .str id) ∈ members
  /-- The entity is of the kind. -/
  typed : ("__typename", .str input.kind.typeTag) ∈ members
  /-- Every field comes back. -/
  returned : ∀ key sent, (key, sent) ∈ input.fields →
    ∃ json, (key, json) ∈ members ∧ Returned key sent json

/-- The root of an answer echoes a mutation, and the block has an id from then on. -/
inductive Mutation.EchoedBy (root : List (String × Json)) (id : String) : Mutation → Prop where
  /-- An update is answered by the block. -/
  | updated {input : BlockInput} {members : List (String × Json)}
      (answered : (Operation.updateBlockField input.kind, .obj members) ∈ root)
      (echoed : input.EchoedBy id members) : EchoedBy root id (.update id input)
  /-- A creation is answered by the realm, which lists the block at its index. -/
  | created {realm : String} {index : Nat} {input : BlockInput}
      {realmMembers members : List (String × Json)} {items : List Json}
      (answered : (Operation.createBlockField input.kind, .obj realmMembers) ∈ root)
      (named : ("id", .str realm) ∈ realmMembers)
      (listed : (Field.blocks, .arr items) ∈ realmMembers)
      (entities : items.all Normalized.isEntity = true)
      (placed : items[index]? = some (.obj members)) (echoed : input.EchoedBy id members) :
      EchoedBy root id (.create realm index input)

namespace Normalized

variable {root members inner : List (String × Json)} {json : Json} {key : String}

theorem isEntity_of_mem {id : Json} (named : ("id", id) ∈ members) :
    isEntity (.obj members) = true := by
  rw [isEntity, Json.member?, Option.isSome_iff_ne_none, Ne, List.lookup_eq_none_iff]
  exact fun absent => by simpa using absent _ named

theorem Met.trans (met : Met json members) (inside : Met (.obj members) inner) :
    Met json inner := by
  induction met with
  | self => exact inside
  | within entity listed isField _ induction =>
      exact .within entity listed isField (induction inside)
  | among all listed _ induction => exact .among all listed (induction inside)

theorem MetIn.trans (met : MetIn root members) (inside : Met (.obj members) inner) :
    MetIn root inner := by
  obtain ⟨name, value, listed, met⟩ := met
  exact ⟨name, value, listed, met.trans inside⟩

theorem MetIn.of_mem {id : Json} (listed : (key, .obj members) ∈ root)
    (named : ("id", id) ∈ members) : MetIn root members :=
  ⟨key, _, listed, .self (isEntity_of_mem named)⟩

theorem field_of_mem_fields {input : BlockInput} {sent : Json}
    (listed : (key, sent) ∈ input.fields) : field sent = .ok (.scalar sent, []) := by
  have all : ∀ member ∈ input.fields, field member.2 = .ok (.scalar member.2, []) := by
    rcases input with _ | _ | _ | ⟨- | _, _⟩ <;> simp [BlockInput.fields, BlockInput.members, field]
  exact all _ listed

namespace Orderly

variable {normalized : Normalized} {input : BlockInput} {id : String}

/-- An entity that is met becomes a link. -/
theorem field_of_entity (orderly : Orderly root) (met : MetIn root members)
    (named : ("id", .str id) ∈ members) :
    ∃ found, field (.obj members) = .ok (.link (.persisted id), found) := by
  obtain ⟨value, found, ran⟩ := orderly.exists_field fun inner inside => met.trans inside
  obtain ⟨other, tag, read, deeper, head, -, rfl, -⟩ :=
    field_obj_of_ok (isEntity_of_mem named) ran
  obtain ⟨same, -, named⟩ := orderly.exists_header met named
  rw [named] at head
  obtain ⟨rfl, -⟩ := Prod.mk.inj (Except.ok.inj head)
  exact ⟨found, ran⟩

/-- A block that echoes an input has a record that carries it. -/
theorem exists_carriedBy (orderly : Orderly root) (ran : ofJson (.obj root) = .ok normalized)
    (met : MetIn root members) (echoed : input.EchoedBy id members) :
    ∃ record, normalized.snapshot.get? (.persisted id) = some record ∧ input.CarriedBy record := by
  obtain ⟨record, found, typed, looked⟩ :=
    orderly.exists_record ran met echoed.named echoed.typed
  refine ⟨record, found, typed, fun key sent listed => ?_⟩
  obtain ⟨-, -, notId, notType⟩ := BlockInput.key_of_mem_fields listed
  have isField : isHeaderKey key = false := by simp [isHeaderKey, notId, notType]
  obtain ⟨json, member, returned⟩ := echoed.returned key sent listed
  cases returned with
  | plain =>
      exact ⟨_, looked key _ _ _ member isField (field_of_mem_fields listed), .plain _⟩
  | entity target inner links named =>
      have inside : MetIn root inner := met.trans
        (.within (isEntity_of_mem echoed.named) member isField (.self (isEntity_of_mem named)))
      obtain ⟨found, read⟩ := orderly.field_of_entity inside named
      exact ⟨_, looked key _ _ _ member isField read, .linked target links⟩

theorem met_of_listed {realmMembers : List (String × Json)} {items : List Json}
    {realmId itemId : Json} (met : MetIn root realmMembers)
    (realmNamed : ("id", realmId) ∈ realmMembers)
    (listed : (Field.blocks, .arr items) ∈ realmMembers) (all : items.all isEntity = true)
    (member : .obj members ∈ items) (named : ("id", itemId) ∈ members) : MetIn root members :=
  met.trans (.within (isEntity_of_mem realmNamed) listed rfl
    (.among all member (.self (isEntity_of_mem named))))

/-- The block that a realm lists at an index is the one that was created there. -/
theorem createdBlock?_eq (orderly : Orderly root) (ran : ofJson (.obj root) = .ok normalized)
    {name realm : String} {realmMembers : List (String × Json)} {items : List Json} {index : Nat}
    (answered : (name, .obj realmMembers) ∈ root) (realmNamed : ("id", .str realm) ∈ realmMembers)
    (listed : (Field.blocks, .arr items) ∈ realmMembers) (all : items.all isEntity = true)
    (placed : items[index]? = some (.obj members)) (named : ("id", .str id) ∈ members) :
    Dispatcher.createdBlock? normalized name index = some (.persisted id) := by
  have metRealm := MetIn.of_mem answered realmNamed
  -- The root links to the realm, and the record of the realm to its blocks.
  obtain ⟨found, linked⟩ := orderly.field_of_entity metRealm realmNamed
  have rooted := orderly.root_of_mem ran answered linked
  obtain ⟨realmTag, realmTyped, -⟩ := orderly.exists_header metRealm realmNamed
  obtain ⟨record, present, -, looked⟩ := orderly.exists_record ran metRealm realmNamed realmTyped
  obtain ⟨value, deeper, read⟩ := orderly.exists_field fun inner met =>
    metRealm.trans (.within (isEntity_of_mem realmNamed) listed rfl met)
  obtain ⟨targets, listing, rfl⟩ := field_arr_of_ok all read
  have blocks : record.get? Field.blocks = some (.links targets) :=
    looked _ _ _ _ listed rfl read
  -- What stands at the index is the id of the block.
  have metBlock := met_of_listed metRealm realmNamed listed all (List.mem_of_getElem? placed) named
  obtain ⟨tag, -, head⟩ := orderly.exists_header metBlock named
  have standing := getElem?_of_entities listing all placed head
  simp [Dispatcher.createdBlock?, linked?, rooted, FieldValue.link?, present, Record.links?,
    blocks, FieldValue.links?, standing]

end Orderly

end Normalized

namespace View

variable (view : View) {snapshot : Snapshot} {id : RecordId} {incoming : Record}

theorem exists_keeps_mergeSnapshot
    (distinct : snapshot.entries.Pairwise fun left right => left.1 ≠ right.1)
    (found : snapshot.get? id = some incoming) :
    ∃ record, view.mergeSnapshot snapshot id = some record ∧ record.Keeps incoming := by
  obtain ⟨record, shown, tag, values⟩ := view.exists_mergeSnapshot distinct found
  exact ⟨record, shown, tag, fun field value _ _ named =>
    ⟨_, values field value named, by simp [FieldValue.Same]⟩⟩

theorem exists_keeps_adopt
    (distinct : snapshot.entries.Pairwise fun left right => left.1 ≠ right.1)
    (found : snapshot.get? id = some incoming) (pending saved realm : RecordId) :
    ∃ record, view.adopt pending saved realm snapshot id = some record ∧ record.Keeps incoming := by
  have apart := Snapshot.distinct_withoutField distinct realm Field.blocks
  have stripped := snapshot.get?_withoutField realm id Field.blocks
  rw [found, Option.map_some] at stripped
  obtain ⟨record, shown, keeps⟩ := exists_keeps_mergeSnapshot (Function.update
    (view.setBlocks realm ((view.blocks realm).replace pending saved)) pending none) apart stripped
  refine ⟨record, shown, keeps.trans ?_⟩
  split
  · exact incoming.erase_keeps
  · exact incoming.refl_keeps

end View

namespace Dispatcher

open Normalized (Orderly MetIn)

variable {cache : Cache} {request : SaveRequest} {input : BlockInput}
  {root : List (String × Json)} {normalized : Normalized} {id : String}

theorem finish_of_updated (own : request.block = .persisted id)
    (asked : request.mutation = .update id input) (orderly : Orderly root)
    (ran : Normalized.ofJson (.obj root) = .ok normalized)
    (echoed : (Mutation.update id input).EchoedBy root id) :
    ∃ after record, finish cache request (.ok (.obj root)) =
        (.saved request.block (.persisted id), after) ∧
      after.store.records.view (.persisted id) = some record ∧ input.CarriedBy record := by
  have finishes : finish cache request (.ok (.obj root)) =
      (.saved request.block (.persisted id), cache.applySnapshot normalized.snapshot) := by
    simp only [finish, Normalized.ofResult, ran, apply, asked, own]
  cases echoed with
  | updated answered echoed =>
      obtain ⟨incoming, found, carried⟩ :=
        orderly.exists_carriedBy ran (MetIn.of_mem answered echoed.named) echoed
      obtain ⟨record, shown, keeps⟩ := cache.store.records.view.exists_keeps_mergeSnapshot
        (Normalized.closed_of_ofJson ran).1.distinct found
      refine ⟨_, record, finishes, ?_, carried.of_keeps keeps⟩
      rw [(cache.wrote_applySnapshot normalized.snapshot).view, shown]

/-- The block that comes back from a creation is stored with the input that was sent. -/
theorem finish_of_created {realm : String} {index : Nat}
    (asked : request.mutation = .create realm index input) (orderly : Orderly root)
    (ran : Normalized.ofJson (.obj root) = .ok normalized)
    (echoed : (Mutation.create realm index input).EchoedBy root id)
    (present : (cache.store.records.view (.persisted realm)).isSome) :
    ∃ after record, finish cache request (.ok (.obj root)) =
        (.saved request.block (.persisted id), after) ∧
      after.store.records.view (.persisted id) = some record ∧ input.CarriedBy record := by
  cases echoed with
  | created answered named listed entities placed echoed =>
      have created :=
        orderly.createdBlock?_eq ran answered named listed entities placed echoed.named
      obtain ⟨done, wrote⟩ := update_reconcile_of_stored present request.block (.persisted id)
        normalized.snapshot
      have finishes : finish cache request (.ok (.obj root)) =
          (.saved request.block (.persisted id), (cache.update (reconcile request.block
            (.persisted id) (.persisted realm) normalized.snapshot)).2) := by
        simp only [finish, Normalized.ofResult, ran, apply, asked, created, done]
      have met := Orderly.met_of_listed (MetIn.of_mem answered named) named listed entities
        (List.mem_of_getElem? placed) echoed.named
      obtain ⟨incoming, found, carried⟩ := orderly.exists_carriedBy ran met echoed
      obtain ⟨record, shown, keeps⟩ := cache.store.records.view.exists_keeps_adopt
        (Normalized.closed_of_ofJson ran).1.distinct found request.block (.persisted id)
        (.persisted realm)
      refine ⟨_, record, finishes, ?_, carried.of_keeps keeps⟩
      rw [wrote.view, shown]

/-- An echo is accepted, and the block is stored with the input that was sent. -/
theorem finish_of_echoed
    (asked : mutationFor cache.store request.block input = .ok request.mutation)
    (orderly : Orderly root) (echoed : request.mutation.EchoedBy root id) :
    ∃ after record, finish cache request (.ok (.obj root)) =
        (.saved request.block (.persisted id), after) ∧
      after.store.records.view (.persisted id) = some record ∧ input.CarriedBy record := by
  obtain ⟨normalized, ran⟩ := orderly.exists_normalized
  rcases mutationFor_of_ok asked with
    ⟨saved, own, update⟩ | ⟨realm, front, back, split, -, -, create⟩
  · rw [update] at echoed
    obtain rfl : saved = id := by
      cases echoed
      rfl
    exact finish_of_updated own update orderly ran echoed
  · rw [create] at echoed
    refine finish_of_created create orderly ran echoed ?_
    -- A realm that lists a block is there.
    by_contra absent
    rw [Option.not_isSome_iff_eq_none] at absent
    simp [View.blocks, absent] at split

end Dispatcher

end RealmDesk
