import Mathlib.Data.List.InsertIdx
import RealmDesk.Proofs.Store.View

/-!
# How views change

The ways in which the desk writes records: a new block is placed into a list, a block is marked as
being edited, a block is removed everywhere, records are merged, and a block that was saved adopts
the id of the server. For each it is shown which records are there afterwards, what they link to,
and which blocks they list.
-/

namespace RealmDesk

namespace Snapshot

variable {snapshot : Snapshot} {id realm : RecordId} {field : String}

theorem mem_of_get? {record : Record} (found : snapshot.get? id = some record) :
    (id, record) ∈ snapshot.entries := by
  obtain ⟨front, back, split, -⟩ := List.lookup_eq_some_iff.mp found
  rw [split]
  exact List.mem_append_right _ List.mem_cons_self

theorem exists_get? (listed : id ∈ snapshot.entries.map Prod.fst) :
    ∃ record, snapshot.get? id = some record := by
  obtain ⟨entry, member, rfl⟩ := List.mem_map.mp listed
  refine Option.isSome_iff_exists.mp ?_
  rw [get?, Option.isSome_iff_ne_none, Ne, List.lookup_eq_none_iff]
  exact fun absent => by simpa using absent entry member

theorem ids_withoutField (snapshot : Snapshot) (realm : RecordId) (field : String) :
    (snapshot.withoutField realm field).entries.map Prod.fst =
      snapshot.entries.map Prod.fst := by
  rw [withoutField, List.map_map]
  refine List.map_congr_left fun entry _ => ?_
  simp only [Function.comp]
  split <;> rfl

theorem distinct_withoutField
    (distinct : snapshot.entries.Pairwise fun left right => left.1 ≠ right.1) (realm : RecordId)
    (field : String) :
    (snapshot.withoutField realm field).entries.Pairwise fun left right => left.1 ≠ right.1 := by
  have ids := List.pairwise_map.mpr distinct
  rw [← snapshot.ids_withoutField realm field] at ids
  exact List.pairwise_map.mp ids

theorem get?_withoutField (snapshot : Snapshot) (realm id : RecordId) (field : String) :
    (snapshot.withoutField realm field).get? id =
      (snapshot.get? id).map fun record => if id = realm then record.erase field else record := by
  obtain ⟨entries⟩ := snapshot
  simp only [get?, withoutField]
  induction entries with
  | nil => rfl
  | cons entry entries induction =>
      obtain ⟨own, record⟩ := entry
      have head : (if own = realm then (own, record.erase field) else (own, record)) =
          (own, if own = realm then record.erase field else record) := by
        split <;> rfl
      by_cases same : id = own
      · subst same
        simp only [List.map_cons, head, List.lookup_cons_self, Option.map_some]
      · rw [List.map_cons, head, List.lookup_cons, List.lookup_cons, beq_eq_false_iff_ne.mpr same]
        exact induction

theorem linksTo_of_withoutField {entry : RecordId × Record} {other : String} {target : RecordId}
    (member : entry ∈ (snapshot.withoutField realm field).entries)
    (linked : entry.2.LinksTo other target) :
    ∃ whole ∈ snapshot.entries, whole.1 = entry.1 ∧ whole.2.LinksTo other target := by
  obtain ⟨whole, present, rfl⟩ := List.mem_map.mp member
  refine ⟨whole, present, ?_⟩
  split at linked
  case isTrue same => exact ⟨by simp [same], Record.linksTo_of_erase linked⟩
  case isFalse different => exact ⟨by simp [different], linked⟩

theorem exists_of_mem_withoutField {realm : RecordId} {field : String} {trimmed : Record}
    (member : (id, trimmed) ∈ (snapshot.withoutField realm field).entries) :
    ∃ record, (id, record) ∈ snapshot.entries ∧
      trimmed = if id = realm then record.erase field else record := by
  obtain ⟨⟨source, record⟩, present, same⟩ := List.mem_map.mp member
  split at same
  case isTrue named =>
    obtain ⟨rfl, rfl⟩ := Prod.mk.inj same
    exact ⟨record, present, (if_pos named).symm⟩
  case isFalse other =>
    obtain ⟨rfl, rfl⟩ := Prod.mk.inj same
    exact ⟨record, present, (if_neg other).symm⟩

theorem get?_withoutField_self (entry : RecordId × Record)
    (member : entry ∈ (snapshot.withoutField realm field).entries) (same : entry.1 = realm) :
    entry.2.get? field = none := by
  obtain ⟨whole, -, rfl⟩ := List.mem_map.mp member
  split at same
  case isTrue named => simp [named, Record.get?_erase]
  case isFalse different => exact absurd same different

theorem get?_withoutField_of_absent
    (absent : ∀ entry ∈ snapshot.entries, entry.1 = id → entry.2.get? field = none)
    (entry : RecordId × Record) (member : entry ∈ (snapshot.withoutField realm field).entries)
    (same : entry.1 = id) : entry.2.get? field = none := by
  obtain ⟨whole, present, rfl⟩ := List.mem_map.mp member
  split at same
  case isTrue named => simp [named, Record.get?_erase]
  case isFalse different => simpa [different] using absent whole present same

end Snapshot

namespace View

variable {view : View} {id source target realm block : RecordId} {field : String}

/-- A record of the view links to an id in one of its fields. -/
def LinksTo (view : View) (source : RecordId) (field : String) (target : RecordId) : Prop :=
  ∃ record, view source = some record ∧ record.LinksTo field target

/-- The blocks that a record lists, none if there is no record. -/
def blocks (view : View) (id : RecordId) : List RecordId :=
  (view id).elim [] (·.links Field.blocks)

/-- The view with another value of a field. -/
def set (view : View) (id : RecordId) (field : String) (value : FieldValue) : View :=
  Function.update view id ((view id).map (·.set field value))

/-- The view with another list of blocks. -/
def setBlocks (view : View) (id : RecordId) (targets : List RecordId) : View :=
  view.set id Field.blocks (.links targets)

/-- The view with the edit mode of a block switched. -/
def mark (view : View) (block : RecordId) (on : Bool) : View :=
  view.set block Field.editMode (.scalar (.bool on))

/-- The view with a new record in the list of a realm. -/
def place (view : View) (realm : RecordId) (index : Nat) (block : RecordId) (record : Record) :
    View :=
  setBlocks (Function.update view block (some record)) realm
    ((view.blocks realm).insertIdx index block)

/-- The view with a block taken out of the lists of some records. -/
def withdraw (view : View) (block : RecordId) (realms : List RecordId) : View :=
  realms.foldl (fun view realm => view.setBlocks realm ((view.blocks realm).filter (· != block)))
    view

/-- The view with a block taken out of the lists of some records, and without its record. -/
def remove (view : View) (block : RecordId) (realms : List RecordId) : View :=
  Function.update (view.withdraw block realms) block none

/-- The view with the id of the server in the slot of a pending one. -/
def adopt (view : View) (pending saved realm : RecordId) (snapshot : Snapshot) : View :=
  mergeSnapshot
    (Function.update (view.setBlocks realm ((view.blocks realm).replace pending saved))
      pending none)
    (snapshot.withoutField realm Field.blocks)

theorem linksTo_of_mem_blocks (listed : target ∈ view.blocks source) :
    view.LinksTo source Field.blocks target := by
  rw [blocks] at listed
  cases found : view source with
  | none => simp [found] at listed
  | some record =>
      exact ⟨record, found, Record.linksTo_of_mem_links (by simpa [found] using listed)⟩

theorem LinksTo.isSome (linked : view.LinksTo source field target) : (view source).isSome := by
  obtain ⟨record, found, -⟩ := linked
  simp [found]

@[simp] theorem isSome_set (view : View) (id : RecordId) (field : String) (value : FieldValue)
    (other : RecordId) : (view.set id field value other).isSome = (view other).isSome := by
  by_cases same : other = id
  · subst same
    simp [set]
  · simp [set, same]

theorem set_of_ne (view : View) (field : String) (value : FieldValue)
    (different : source ≠ id) : view.set id field value source = view source := by
  simp [set, different]

theorem set_eq_some {value : FieldValue} {record : Record}
    (found : view.set id field value source = some record) :
    ∃ old, view source = some old ∧ old.typeTag = record.typeTag := by
  by_cases same : source = id
  · subst same
    rw [set, Function.update_self, Option.map_eq_some_iff] at found
    obtain ⟨old, present, rfl⟩ := found
    exact ⟨old, present, rfl⟩
  · rw [set_of_ne view field value same] at found
    exact ⟨record, found, rfl⟩

theorem set_of_absent (absent : view id = none) (field : String) (value : FieldValue) :
    view.set id field value = view := by
  rw [set, absent, Option.map_none, ← absent, Function.update_eq_self]

theorem linksTo_set {other : String} {value : FieldValue}
    (linked : (view.set id field value).LinksTo source other target) :
    (source = id ∧ other = field ∧ target ∈ value.targets) ∨
      (view.LinksTo source other target ∧ ¬(source = id ∧ other = field)) := by
  obtain ⟨record, found, linked⟩ := linked
  by_cases same : source = id
  · subst same
    rw [set, Function.update_self, Option.map_eq_some_iff] at found
    obtain ⟨old, found, rfl⟩ := found
    rcases Record.linksTo_set linked with ⟨rfl, member⟩ | ⟨different, linked⟩
    · exact .inl ⟨rfl, rfl, member⟩
    · exact .inr ⟨⟨old, found, linked⟩, fun both => different both.2⟩
  · rw [set_of_ne view field value same] at found
    exact .inr ⟨⟨record, found, linked⟩, fun both => same both.1⟩

theorem blocks_set_of_ne {value : FieldValue} (different : Field.blocks ≠ field) (id other) :
    (view.set id field value).blocks other = view.blocks other := by
  by_cases same : other = id
  · subst same
    cases found : view other with
    | none => simp [blocks, set, found]
    | some record => simp [blocks, set, found, record.links_set_of_ne value different]
  · simp [blocks, set, same]

theorem blocks_setBlocks_self (present : (view id).isSome) (targets : List RecordId) :
    (view.setBlocks id targets).blocks id = targets := by
  obtain ⟨record, found⟩ := Option.isSome_iff_exists.mp present
  simp [blocks, setBlocks, set, found]

theorem blocks_setBlocks_of_ne (targets : List RecordId) (different : source ≠ id) :
    (view.setBlocks id targets).blocks source = view.blocks source := by
  simp [blocks, setBlocks, set, different]

theorem linksTo_update_none
    (linked : LinksTo (Function.update view id none) source field target) :
    view.LinksTo source field target ∧ source ≠ id := by
  obtain ⟨record, found, linked⟩ := linked
  by_cases same : source = id
  · subst same
    simp at found
  · rw [Function.update_of_ne same] at found
    exact ⟨⟨record, found, linked⟩, same⟩

theorem blocks_update_of_ne {next : Option Record} (different : source ≠ id) :
    blocks (Function.update view id next) source = view.blocks source := by
  simp [blocks, different]

theorem isSome_place (view : View) (realm : RecordId) (index : Nat) (block : RecordId)
    (record : Record) (id : RecordId) :
    (view.place realm index block record id).isSome ↔ id = block ∨ (view id).isSome := by
  by_cases same : id = block
  · subst same
    simp [place, setBlocks]
  · simp [place, setBlocks, same]

theorem linksTo_place {index : Nat} {record : Record}
    (linked : (view.place realm index block record).LinksTo source field target) :
    (source = realm ∧ field = Field.blocks ∧ (target = block ∨ target ∈ view.blocks realm)) ∨
      (source = block ∧ record.LinksTo field target) ∨
      (source ≠ block ∧ view.LinksTo source field target) := by
  rcases linksTo_set linked with ⟨rfl, rfl, member⟩ | ⟨⟨found, present, linked⟩, -⟩
  · exact .inl ⟨rfl, rfl, List.eq_or_mem_of_mem_insertIdx member⟩
  · by_cases same : source = block
    · subst same
      rw [Function.update_self] at present
      obtain rfl := Option.some.inj present
      exact .inr (.inl ⟨rfl, linked⟩)
    · rw [Function.update_of_ne same] at present
      exact .inr (.inr ⟨same, found, present, linked⟩)

theorem blocks_place_self {index : Nat} {record : Record} (present : (view realm).isSome) :
    (view.place realm index block record).blocks realm =
      (view.blocks realm).insertIdx index block := by
  refine blocks_setBlocks_self ?_ _
  by_cases same : realm = block
  · simp [same]
  · simpa [same] using present

theorem blocks_place_of_ne {index : Nat} {record : Record} {other : RecordId}
    (notRealm : other ≠ realm) (notBlock : other ≠ block) :
    (view.place realm index block record).blocks other = view.blocks other := by
  rw [place, blocks_setBlocks_of_ne _ notRealm, blocks_update_of_ne notBlock]

theorem mem_blocks_place {index : Nat} {record : Record} (present : (view realm).isSome)
    (within : index ≤ (view.blocks realm).length) (different : id ≠ block) (other : RecordId) :
    other ∈ (view.place realm index block record).blocks id ↔
      (id = realm ∧ other = block) ∨ other ∈ view.blocks id := by
  by_cases same : id = realm
  · subst same
    rw [blocks_place_self present, List.mem_insertIdx within]
    simp
  · rw [blocks_place_of_ne same different]
    simp [same]

@[simp] theorem isSome_withdraw (view : View) (block : RecordId) (realms : List RecordId)
    (id : RecordId) : (view.withdraw block realms id).isSome = (view id).isSome := by
  induction realms generalizing view with
  | nil => rfl
  | cons realm realms induction =>
      rw [withdraw, List.foldl_cons, ← withdraw, induction]
      simp [setBlocks]

theorem linksTo_withdraw {realms : List RecordId}
    (linked : (view.withdraw block realms).LinksTo source field target) :
    view.LinksTo source field target ∧
      (source ∈ realms → field = Field.blocks → target ≠ block) := by
  induction realms generalizing view with
  | nil => exact ⟨linked, nofun⟩
  | cons realm realms induction =>
      rw [withdraw, List.foldl_cons, ← withdraw] at linked
      obtain ⟨linked, spared⟩ := induction linked
      rcases linksTo_set linked with ⟨rfl, rfl, member⟩ | ⟨linked, other⟩
      · obtain ⟨member, different⟩ := List.mem_filter.mp member
        exact ⟨linksTo_of_mem_blocks member, fun _ _ => by simpa using different⟩
      · refine ⟨linked, fun member same => ?_⟩
        rcases List.mem_cons.mp member with rfl | member
        · exact absurd ⟨rfl, same⟩ other
        · exact spared member same

theorem blocks_filter_setBlocks (view : View) (id : RecordId) (keep : RecordId → Bool) :
    (view.setBlocks id ((view.blocks id).filter keep)).blocks id =
      (view.blocks id).filter keep := by
  cases found : view id with
  | none => simp [blocks, setBlocks, set, found]
  | some record => exact blocks_setBlocks_self (by simp [found]) _

theorem blocks_withdraw (view : View) (block : RecordId) (realms : List RecordId)
    (id : RecordId) :
    (view.withdraw block realms).blocks id =
      if id ∈ realms then (view.blocks id).filter (· != block) else view.blocks id := by
  induction realms generalizing view with
  | nil => simp [withdraw]
  | cons realm realms induction =>
      rw [withdraw, List.foldl_cons, ← withdraw, induction]
      by_cases same : id = realm
      · subst same
        simp [blocks_filter_setBlocks]
      · simp [blocks_setBlocks_of_ne _ same, same]

theorem isSome_remove (view : View) (block : RecordId) (realms : List RecordId) (id : RecordId) :
    (view.remove block realms id).isSome ↔ id ≠ block ∧ (view id).isSome := by
  by_cases same : id = block
  · subst same
    simp [remove]
  · simp [remove, same]

/-- Nothing that lists blocks lists a removed block, if every record that lists it is named. -/
theorem linksTo_remove {realms : List RecordId}
    (named : ∀ id, view.LinksTo id Field.blocks block → id ∈ realms)
    (linked : (view.remove block realms).LinksTo source field target) :
    view.LinksTo source field target ∧ source ≠ block ∧
      (field = Field.blocks → target ≠ block) := by
  obtain ⟨withdrawn, different⟩ := linksTo_update_none linked
  obtain ⟨old, spared⟩ := linksTo_withdraw withdrawn
  refine ⟨old, different, ?_⟩
  rintro rfl rfl
  exact spared (named source old) rfl rfl

theorem blocks_remove {realms : List RecordId}
    (named : ∀ id, view.LinksTo id Field.blocks block → id ∈ realms) (different : id ≠ block) :
    (view.remove block realms).blocks id = (view.blocks id).filter (· != block) := by
  rw [remove, blocks_update_of_ne different, blocks_withdraw]
  split
  case isTrue => rfl
  case isFalse unnamed =>
    refine (List.filter_eq_self.mpr ?_).symm
    intro target listed
    have spared : target ≠ block := fun same =>
      unnamed (named id (same ▸ linksTo_of_mem_blocks listed))
    simpa using spared

/-! ## Merging records -/

theorem merge_of_ne (view : View) (incoming : Record) (different : source ≠ id) :
    view.merge id incoming source = view source := by
  simp [merge, different]

theorem linksTo_merge {incoming : Record}
    (linked : (view.merge id incoming).LinksTo source field target) :
    (source = id ∧ incoming.LinksTo field target) ∨
      (view.LinksTo source field target ∧ (source = id → incoming.get? field = none)) := by
  obtain ⟨record, found, linked⟩ := linked
  by_cases same : source = id
  · subst same
    rw [merge, Function.update_self, Option.some.injEq] at found
    cases present : view source with
    | none =>
        obtain rfl : incoming = record := by simpa [present] using found
        exact .inl ⟨rfl, linked⟩
    | some old =>
        obtain rfl : old.merge incoming = record := by simpa [present] using found
        rcases Record.linksTo_merge linked with linked | ⟨absent, linked⟩
        · exact .inl ⟨rfl, linked⟩
        · exact .inr ⟨⟨old, present, linked⟩, fun _ => absent⟩
  · rw [merge_of_ne view incoming same] at found
    exact .inr ⟨⟨record, found, linked⟩, fun equal => absurd equal same⟩

theorem blocks_merge_of_absent {incoming : Record} (absent : incoming.get? Field.blocks = none)
    (other : RecordId) : (view.merge id incoming).blocks other = view.blocks other := by
  by_cases same : other = id
  · subst same
    cases found : view other with
    | none => simp [blocks, merge, found, Record.links, Record.links?, absent]
    | some record => simp [blocks, merge, found, record.links_merge_of_absent absent]
  · simp [blocks, merge_of_ne view incoming same]

theorem blocks_merge_of_present {incoming : Record} {targets : List RecordId}
    (present : incoming.links? Field.blocks = some targets) :
    (view.merge id incoming).blocks id = targets := by
  cases found : view id with
  | none => simp [blocks, merge, found, Record.links, present]
  | some record =>
      simp [blocks, merge, found, Record.links, record.links?_merge_of_present present]

/-- A merge keeps a list of blocks or takes over the incoming one. -/
theorem blocks_merge_cases (view : View) (id : RecordId) (incoming : Record) (other : RecordId) :
    (view.merge id incoming).blocks other = view.blocks other ∨
      (other = id ∧ (view.merge id incoming).blocks other = incoming.links Field.blocks) := by
  cases named : incoming.get? Field.blocks with
  | none => exact .inl (blocks_merge_of_absent named other)
  | some value =>
      by_cases same : other = id
      · subst same
        refine .inr ⟨rfl, ?_⟩
        cases found : view other with
        | none => simp [blocks, merge, found]
        | some record => simp [blocks, merge, found, Record.links, Record.links?, named]
      · exact .inl (by simp [blocks, merge_of_ne view incoming same])

variable {snapshot : Snapshot}

theorem mergeSnapshot_cons (view : View) (entry : RecordId × Record)
    (entries : List (RecordId × Record)) :
    view.mergeSnapshot ⟨entry :: entries⟩ =
      mergeSnapshot (view.merge entry.1 entry.2.unsignedZeros) ⟨entries⟩ := rfl

theorem isSome_mergeSnapshot (view : View) (snapshot : Snapshot) (id : RecordId) :
    (view.mergeSnapshot snapshot id).isSome ↔
      (view id).isSome ∨ id ∈ snapshot.entries.map Prod.fst := by
  obtain ⟨entries⟩ := snapshot
  induction entries generalizing view with
  | nil => simp [mergeSnapshot]
  | cons entry entries induction =>
      rw [mergeSnapshot_cons, induction]
      by_cases same : id = entry.1
      · simp [merge, same]
      · simp [merge_of_ne view _ same, same]

theorem mergeSnapshot_of_absent (absent : id ∉ snapshot.entries.map Prod.fst) :
    view.mergeSnapshot snapshot id = view id := by
  obtain ⟨entries⟩ := snapshot
  induction entries generalizing view with
  | nil => rfl
  | cons entry entries induction =>
      obtain ⟨different, absent⟩ := List.ne_and_not_mem_of_not_mem_cons absent
      rw [mergeSnapshot_cons, induction absent, merge_of_ne view _ different]

theorem linksTo_mergeSnapshot
    (linked : (view.mergeSnapshot snapshot).LinksTo source field target) :
    (∃ entry ∈ snapshot.entries, entry.1 = source ∧ entry.2.LinksTo field target) ∨
      view.LinksTo source field target := by
  obtain ⟨entries⟩ := snapshot
  induction entries generalizing view with
  | nil => exact .inr linked
  | cons entry entries induction =>
      rcases induction linked with ⟨later, member, named⟩ | linked
      · exact .inl ⟨later, List.mem_cons_of_mem _ member, named⟩
      · rcases linksTo_merge linked with ⟨same, incoming⟩ | ⟨linked, -⟩
        · exact .inl
            ⟨entry, List.mem_cons_self, same.symm, Record.linksTo_unsignedZeros.mp incoming⟩
        · exact .inr linked

theorem blocks_mergeSnapshot_of_absent
    (absent : ∀ entry ∈ snapshot.entries, entry.1 = id → entry.2.get? Field.blocks = none) :
    (view.mergeSnapshot snapshot).blocks id = view.blocks id := by
  obtain ⟨entries⟩ := snapshot
  induction entries generalizing view with
  | nil => rfl
  | cons entry entries induction =>
      rw [mergeSnapshot_cons, induction fun later member => absent later (.tail _ member)]
      by_cases same : id = entry.1
      · exact blocks_merge_of_absent (by simp [absent entry List.mem_cons_self same.symm]) id
      · simp [blocks, merge_of_ne view _ same]

theorem blocks_mergeSnapshot_of_present {record : Record} {targets : List RecordId}
    (distinct : snapshot.entries.Pairwise fun left right => left.1 ≠ right.1)
    (member : (id, record) ∈ snapshot.entries)
    (present : record.links? Field.blocks = some targets) :
    (view.mergeSnapshot snapshot).blocks id = targets := by
  obtain ⟨entries⟩ := snapshot
  induction entries generalizing view with
  | nil => cases member
  | cons entry entries induction =>
      obtain ⟨different, distinct⟩ := List.pairwise_cons.mp distinct
      rw [mergeSnapshot_cons]
      rcases List.mem_cons.mp member with rfl | member
      · have once : id ∉ entries.map Prod.fst := by
          intro listed
          obtain ⟨later, member, same⟩ := List.mem_map.mp listed
          exact different later member same.symm
        rw [blocks, mergeSnapshot_of_absent once]
        exact blocks_merge_of_present (by simpa using present)
      · exact induction distinct member

theorem isSome_adopt (view : View) (pending saved realm : RecordId) (snapshot : Snapshot)
    (id : RecordId) :
    (view.adopt pending saved realm snapshot id).isSome ↔
      (id ≠ pending ∧ (view id).isSome) ∨ id ∈ snapshot.entries.map Prod.fst := by
  rw [adopt, isSome_mergeSnapshot, Snapshot.ids_withoutField]
  by_cases same : id = pending
  · simp [same]
  · simp [same, setBlocks]

theorem linksTo_adopt {pending saved : RecordId}
    (linked : (view.adopt pending saved realm snapshot).LinksTo source field target) :
    (source = realm ∧ field = Field.blocks ∧
        target ∈ (view.blocks realm).replace pending saved) ∨
      (view.LinksTo source field target ∧ source ≠ pending ∧
        ¬(source = realm ∧ field = Field.blocks)) ∨
      ∃ entry ∈ snapshot.entries, entry.1 = source ∧ entry.2.LinksTo field target := by
  rcases linksTo_mergeSnapshot linked with ⟨entry, member, same, linked⟩ | linked
  · obtain ⟨whole, member, equal, linked⟩ := Snapshot.linksTo_of_withoutField member linked
    exact .inr (.inr ⟨whole, member, equal.trans same, linked⟩)
  · obtain ⟨linked, different⟩ := linksTo_update_none linked
    rcases linksTo_set linked with listed | ⟨linked, other⟩
    · exact .inl listed
    · exact .inr (.inl ⟨linked, different, other⟩)

theorem blocks_adopt_self {pending saved : RecordId} (present : (view realm).isSome)
    (different : realm ≠ pending) :
    (view.adopt pending saved realm snapshot).blocks realm =
      (view.blocks realm).replace pending saved := by
  rw [adopt, blocks_mergeSnapshot_of_absent Snapshot.get?_withoutField_self,
    blocks_update_of_ne different, blocks_setBlocks_self present]

theorem blocks_adopt_of_ne {pending saved : RecordId} (notRealm : id ≠ realm)
    (notPending : id ≠ pending)
    (absent : ∀ entry ∈ snapshot.entries, entry.1 = id → entry.2.get? Field.blocks = none) :
    (view.adopt pending saved realm snapshot).blocks id = view.blocks id := by
  rw [adopt, blocks_mergeSnapshot_of_absent (Snapshot.get?_withoutField_of_absent absent),
    blocks_update_of_ne notPending, blocks_setBlocks_of_ne _ notRealm]

end View

theorem Store.mem_referrers {store : Store} {id block : RecordId} {field : String} :
    id ∈ store.referrers block field ↔ store.records.view.LinksTo id field block := by
  simp only [referrers, List.mem_map, List.mem_filter, Prod.exists, View.LinksTo, Records.view,
    Option.map_eq_some_iff, Std.ExtTreeMap.mem_toList_iff_getElem?_eq_some]
  constructor
  · rintro ⟨source, record, ⟨found, linked⟩, rfl⟩
    obtain ⟨value, named, member⟩ := (Option.any_eq_true _ _).mp linked
    exact ⟨_, ⟨record, found, rfl⟩,
      Record.linksTo_unsignedZeros.mpr ⟨value, named, by simpa using member⟩⟩
  · rintro ⟨-, ⟨record, found, rfl⟩, linked⟩
    obtain ⟨value, named, member⟩ := Record.linksTo_unsignedZeros.mp linked
    exact ⟨id, record, ⟨found, (Option.any_eq_true _ _).mpr ⟨value, named, by simpa using member⟩⟩,
      rfl⟩

end RealmDesk
