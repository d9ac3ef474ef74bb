import RealmDesk.Proofs.Answer.Closure
import RealmDesk.Proofs.Store.Garbage

/-!
# Pending ids in a view

Only the insertion of a new block brings a pending id into a view. Everything else takes pending
ids out or leaves them where they are: no record gets one, no list of blocks gains one.
-/

namespace RealmDesk

/-- What links to a pending id in the field of the blocks is a list. -/
def View.Listed (view : View) : Prop :=
  ∀ source number, view.LinksTo source Field.blocks (.pending number) →
    .pending number ∈ view.blocks source

/-- No record gets a pending id, and no list of blocks gains one. -/
structure View.Recedes (before after : View) : Prop where
  /-- A record with a pending id was there before, with the same type. -/
  stored : ∀ number record, after (.pending number) = some record →
    ∃ old, before (.pending number) = some old ∧ old.typeTag = record.typeTag
  /-- A pending id stands in a list no more often than before. -/
  count : ∀ id number, (after.blocks id).count (.pending number) ≤
    (before.blocks id).count (.pending number)
  /-- No field of the blocks comes to link to a pending id without being a list. -/
  listed : before.Listed → after.Listed

/-- A snapshot in which every id was given by the server. -/
structure Snapshot.Saved (snapshot : Snapshot) : Prop where
  /-- Every record has such an id. -/
  ids : ∀ entry ∈ snapshot.entries, entry.1.isPending = false
  /-- Every link leads to such an id. -/
  targets : ∀ entry ∈ snapshot.entries, ∀ field target, entry.2.LinksTo field target →
    target.isPending = false

namespace Snapshot

variable {snapshot : Snapshot}

theorem Closed.isPending_eq_false (closed : snapshot.Closed) {id : RecordId}
    (member : id ∈ snapshot.entries.map Prod.fst) : id.isPending = false := by
  obtain ⟨entry, listed, rfl⟩ := List.mem_map.mp member
  exact closed.saved entry listed

theorem Closed.toSaved (closed : snapshot.Closed) : snapshot.Saved :=
  ⟨closed.saved, fun entry member field target linked =>
    closed.isPending_eq_false (closed.linked entry member field target linked)⟩

theorem Saved.withoutField (saved : snapshot.Saved) (realm : RecordId) (field : String) :
    (snapshot.withoutField realm field).Saved := by
  refine ⟨fun entry member => ?_, fun entry member other target linked => ?_⟩
  · have listed : entry.1 ∈ (snapshot.withoutField realm field).entries.map Prod.fst :=
      List.mem_map_of_mem member
    rw [ids_withoutField] at listed
    obtain ⟨whole, member, same⟩ := List.mem_map.mp listed
    exact same ▸ saved.ids whole member
  · obtain ⟨whole, member, -, linked⟩ := linksTo_of_withoutField member linked
    exact saved.targets whole member other target linked

end Snapshot

namespace View.Recedes

variable {before middle after view : View}

theorem refl (view : View) : view.Recedes view :=
  ⟨fun _ record found => ⟨record, found, rfl⟩, fun _ _ => Nat.le_refl _, id⟩

theorem trans (first : before.Recedes middle) (second : middle.Recedes after) :
    before.Recedes after := by
  refine ⟨fun number record found => ?_,
    fun id number => Nat.le_trans (second.count id number) (first.count id number),
    fun listed => second.listed (first.listed listed)⟩
  obtain ⟨between, found, sameLater⟩ := second.stored number record found
  obtain ⟨old, found, same⟩ := first.stored number between found
  exact ⟨old, found, same.trans sameLater⟩

theorem isSome (recedes : before.Recedes after) {number : Nat}
    (present : (after (.pending number)).isSome) : (before (.pending number)).isSome := by
  obtain ⟨record, found⟩ := Option.isSome_iff_exists.mp present
  obtain ⟨old, found, -⟩ := recedes.stored number record found
  simp [found]

theorem mem (recedes : before.Recedes after) {id : RecordId} {number : Nat}
    (listed : .pending number ∈ after.blocks id) : .pending number ∈ before.blocks id :=
  List.count_pos_iff.mp
    (Nat.lt_of_lt_of_le (List.count_pos_iff.mpr listed) (recedes.count id number))

theorem mark (view : View) (block : RecordId) (on : Bool) : view.Recedes (view.mark block on) := by
  have same (id : RecordId) : (view.mark block on).blocks id = view.blocks id :=
    blocks_set_of_ne (by decide) block id
  refine ⟨fun number record found => set_eq_some found, fun id number => ?_,
    fun listed source number linked => ?_⟩
  · exact Nat.le_of_eq (by rw [same])
  · rw [same]
    rcases linksTo_set linked with ⟨-, other, -⟩ | ⟨old, -⟩
    · exact absurd other (by decide)
    · exact listed source number old

theorem setBlocks {id : RecordId} {targets : List RecordId}
    (fewer : ∀ number, targets.count (.pending number) ≤
      (view.blocks id).count (.pending number)) : view.Recedes (view.setBlocks id targets) := by
  refine ⟨fun number record found => set_eq_some found, fun other number => ?_,
    fun listed source number linked => ?_⟩
  · by_cases same : other = id
    · subst same
      cases found : view other with
      | none =>
          exact Nat.le_of_eq (by rw [View.setBlocks, set_of_absent found])
      | some record =>
          rw [blocks_setBlocks_self (by simp [found])]
          exact fewer number
    · exact Nat.le_of_eq (by rw [blocks_setBlocks_of_ne targets same])
  · have present : (view source).isSome := by simpa [View.setBlocks] using linked.isSome
    rcases linksTo_set linked with ⟨rfl, -, member⟩ | ⟨old, other⟩
    · rwa [blocks_setBlocks_self present]
    · have different : source ≠ id := fun same => other ⟨same, rfl⟩
      rw [blocks_setBlocks_of_ne targets different]
      exact listed source number old

theorem delete (view : View) (id : RecordId) : view.Recedes (Function.update view id none) := by
  refine ⟨fun number record found => ?_, fun other number => ?_,
    fun listed source number linked => ?_⟩
  · by_cases same : .pending number = id
    · simp [same] at found
    · exact ⟨record, by simpa [same] using found, rfl⟩
  · by_cases same : other = id
    · subst same
      simp [blocks]
    · exact Nat.le_of_eq (by rw [blocks_update_of_ne same])
  · obtain ⟨old, different⟩ := linksTo_update_none linked
    rw [blocks_update_of_ne different]
    exact listed source number old

theorem remove (view : View) (block : RecordId) (realms : List RecordId) :
    view.Recedes (view.remove block realms) := by
  have withdrawn : view.Recedes (view.withdraw block realms) := by
    induction realms generalizing view with
    | nil => exact refl view
    | cons realm realms induction =>
        refine .trans (.setBlocks fun number => ?_) (induction _)
        exact List.filter_sublist.count_le _
  exact withdrawn.trans (.delete _ _)

/-- A merged record links to no pending id. -/
theorem merge {id : RecordId} {incoming : Record} (view : View) (persisted : id.isPending = false)
    (saved : ∀ field target, incoming.LinksTo field target → target.isPending = false) :
    view.Recedes (view.merge id incoming) := by
  refine ⟨fun number record found => ?_, fun other number => ?_,
    fun listed source number linked => ?_⟩
  · have different : RecordId.pending number ≠ id := by
      rintro rfl
      cases persisted
    rw [merge_of_ne view incoming different] at found
    exact ⟨record, found, rfl⟩
  · rcases view.blocks_merge_cases id incoming other with same | ⟨-, taken⟩
    · exact Nat.le_of_eq (by rw [same])
    · rw [taken, List.count_eq_zero.mpr]
      · exact Nat.zero_le _
      · intro member
        cases saved _ _ (Record.linksTo_of_mem_links member)
  · rcases linksTo_merge linked with ⟨-, incoming⟩ | ⟨old, absent⟩
    · cases saved _ _ incoming
    · by_cases same : source = id
      · rw [blocks_merge_of_absent (absent same)]
        exact listed source number old
      · rw [blocks, merge_of_ne view incoming same]
        exact listed source number old

theorem mergeSnapshot {snapshot : Snapshot} (saved : snapshot.Saved) (view : View) :
    view.Recedes (view.mergeSnapshot snapshot) := by
  obtain ⟨entries⟩ := snapshot
  induction entries generalizing view with
  | nil => exact .refl view
  | cons entry entries induction =>
      rw [mergeSnapshot_cons]
      refine .trans (.merge view (saved.ids entry List.mem_cons_self) fun field target linked =>
        saved.targets entry List.mem_cons_self field target
          (Record.linksTo_unsignedZeros.mp linked)) (induction _ ⟨?_, ?_⟩)
      · exact fun later member => saved.ids later (List.mem_cons_of_mem _ member)
      · exact fun later member => saved.targets later (List.mem_cons_of_mem _ member)

theorem adopt {snapshot : Snapshot} (saved : snapshot.Saved) (view : View)
    (pending realm : RecordId) {block : RecordId} (persisted : block.isPending = false) :
    view.Recedes (view.adopt pending block realm snapshot) := by
  refine .trans (.trans (.setBlocks fun number => ?_) (.delete _ _))
    (.mergeSnapshot (saved.withoutField realm Field.blocks) _)
  have other : (block == .pending number) = false := by
    refine beq_false_of_ne ?_
    rintro rfl
    cases persisted
  by_cases listed : pending ∈ view.blocks realm
  · obtain ⟨front, back, split, earlier⟩ := List.eq_append_cons_of_mem listed
    rw [split, List.replace_append_right earlier, List.replace_cons_self, List.count_append,
      List.count_append, List.count_cons, List.count_cons, other]
    simp
  · exact Nat.le_of_eq (by rw [List.replace_of_not_mem listed])

theorem of_tidied {before after : Cache} (tidied : before.Tidied after) :
    before.store.records.view.Recedes after.store.records.view := by
  have same {id : RecordId} (present : (after.store.records.view id).isSome) :
      after.store.records.view.blocks id = before.store.records.view.blocks id := by
    rw [blocks, blocks, tidied.view_eq present]
  refine ⟨fun number record found => ?_, fun id number => ?_, fun listed source number linked => ?_⟩
  · have present : (after.store.records.view (.pending number)).isSome := by simp [found]
    exact ⟨record, (tidied.view_eq present).symm.trans found, rfl⟩
  · cases found : after.store.records.view id with
    | none => simp [blocks, found]
    | some record =>
        exact Nat.le_of_eq (by rw [same (by simp [found])])
  · rw [same linked.isSome]
    exact listed source number (tidied.linksTo linked)

end View.Recedes

end RealmDesk
