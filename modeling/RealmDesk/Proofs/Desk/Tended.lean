import RealmDesk.Proofs.Desk.Turns
import RealmDesk.Proofs.Store.Pending

/-!
# Pending ids in lists of blocks

A pending id comes into a list of blocks in one way only: it is given out for a new block, which is
placed into one list. Everything else leaves the pending ids in a list as they are or takes some
out. So a pending block stands in one list at most, and a request that creates it names the realm
with that list for as long as the request is in flight.
-/

namespace RealmDesk

namespace Desk

/-- The pending ids of a desk are in order, as far as the blocks of a realm are concerned. -/
structure Tended (desk : Desk) (realm : RecordId) : Prop where
  /-- The ids of new records were given out. -/
  stored : ∀ number, (desk.view (.pending number)).isSome →
    number ≤ desk.cache.store.lastPending
  /-- The new blocks in the list, and in the lists of saved records, were given out. -/
  listed : ∀ id number, id = realm ∨ id.isPending = false →
    .pending number ∈ desk.view.blocks id → number ≤ desk.cache.store.lastPending
  /-- No new block stands in the list twice. -/
  once : ∀ number, (desk.view.blocks realm).count (.pending number) ≤ 1
  /-- No saved record but the realm lists a new block of the list. -/
  alone : ∀ number text, .pending number ∈ desk.view.blocks realm →
    .pending number ∈ desk.view.blocks (.persisted text) → realm = .persisted text
  /-- A request that creates a block of the list names the realm. -/
  asked : ∀ request text index input, desk.Sent request →
    request.mutation = .create text index input →
      ∃ number, request.block = .pending number ∧ number ≤ desk.cache.store.lastPending ∧
        (request.block ∈ desk.view.blocks realm → realm = .persisted text)

namespace Tended

variable {allowed : FieldMap → Prop} {before after : Desk} {realm : RecordId}

theorem of_recedes (tended : before.Tended realm) (recedes : before.view.Recedes after.view)
    (grown : before.cache.store.lastPending ≤ after.cache.store.lastPending)
    (fewer : ∀ request, after.Sent request → before.Sent request) : after.Tended realm where
  stored number present := Nat.le_trans (tended.stored number (recedes.isSome present)) grown
  listed id number named listed :=
    Nat.le_trans (tended.listed id number named (recedes.mem listed)) grown
  once number := Nat.le_trans (recedes.count realm number) (tended.once number)
  alone number text listed other := tended.alone number text (recedes.mem listed)
    (recedes.mem other)
  asked request text index input sent created := by
    obtain ⟨number, same, bound, named⟩ :=
      tended.asked request text index input (fewer request sent) created
    refine ⟨number, same, Nat.le_trans bound grown, fun listed => named ?_⟩
    rw [same] at listed ⊢
    exact recedes.mem listed

/-- The next pending id stands in no list of a saved record. -/
theorem fresh (tended : before.Tended realm) {id : RecordId}
    (named : id = realm ∨ id.isPending = false) :
    .pending (before.cache.store.lastPending + 1) ∉ before.view.blocks id := by
  intro listed
  have bound := tended.listed id _ named listed
  omega

theorem placed {target : RecordId} {index : Nat} {record : Record} (tended : before.Tended realm)
    (fresh : before.view (.pending (before.cache.store.lastPending + 1)) = none)
    (present : (before.view target).isSome)
    (within : index ≤ (before.view.blocks target).length)
    (known : realm.isPending → (before.view realm).isSome)
    (wrote : before.cache.Wrote after.cache
      (before.view.place target index (.pending (before.cache.store.lastPending + 1)) record)
      (before.cache.store.lastPending + 1))
    (fewer : ∀ request, after.Sent request → before.Sent request) : after.Tended realm := by
  have shown : after.view = _ := wrote.view
  have counter := wrote.lastPending_eq
  have different {id : RecordId} (named : id = realm ∨ id.isPending = false) :
      id ≠ .pending (before.cache.store.lastPending + 1) := by
    rintro rfl
    rcases named with rfl | persisted
    · simpa [fresh] using known rfl
    · cases persisted
  have holds {id : RecordId} (named : id = realm ∨ id.isPending = false) (number : Nat) :
      .pending number ∈ after.view.blocks id ↔
        (id = target ∧ number = before.cache.store.lastPending + 1) ∨
          .pending number ∈ before.view.blocks id := by
    rw [shown, View.mem_blocks_place present within (different named), RecordId.pending.injEq]
  refine ⟨fun number stored => ?_, fun id number named listed => ?_, fun number => ?_,
    fun number text listed other => ?_, fun request text index input sent created => ?_⟩
  · rw [shown] at stored
    rcases (View.isSome_place ..).mp stored with same | old
    · exact Nat.le_of_eq ((RecordId.pending.inj same).trans counter.symm)
    · exact counter ▸ Nat.le_succ_of_le (tended.stored number old)
  · rcases (holds named number).mp listed with ⟨-, rfl⟩ | old
    · exact Nat.le_of_eq counter.symm
    · exact counter ▸ Nat.le_succ_of_le (tended.listed id number named old)
  · by_cases same : realm = target
    · subst same
      rw [shown, View.blocks_place_self present, (List.perm_insertIdx _ _ within).count_eq,
        List.count_cons]
      split
      case isTrue equal =>
        have none := List.count_eq_zero.mpr (tended.fresh (.inl rfl))
        rw [eq_of_beq equal] at none
        exact Nat.le_of_eq (by rw [none])
      case isFalse => exact tended.once number
    · rw [shown, View.blocks_place_of_ne same (different (.inl rfl))]
      exact tended.once number
  · -- The new id is in the list of the realm it was placed into only, as it was in no list before.
    rcases (holds (.inl rfl) number).mp listed with ⟨rfl, rfl⟩ | old
    · rcases (holds (.inr rfl) _).mp other with ⟨same, -⟩ | old
      · exact same.symm
      · exact absurd old (tended.fresh (.inr rfl))
    · rcases (holds (.inr rfl) _).mp other with ⟨-, rfl⟩ | older
      · exact absurd old (tended.fresh (.inl rfl))
      · exact tended.alone number text old older
  · obtain ⟨number, same, bound, named⟩ :=
      tended.asked request text index input (fewer request sent) created
    refine ⟨number, same, counter ▸ Nat.le_succ_of_le bound, fun listed => ?_⟩
    rw [same] at listed named
    rcases (holds (.inl rfl) number).mp listed with ⟨-, rfl⟩ | old
    · omega
    · exact named old

theorem sent {request : SaveRequest} (tended : before.Tended realm)
    (same : after.cache = before.cache)
    (asked : ∀ realm index input, request.mutation = .create realm index input →
      request.block.isPending ∧ (before.view request.block).isSome ∧
        request.block ∈ before.view.blocks (.persisted realm))
    (more : ∀ other, after.Sent other → other = request ∨ before.Sent other) :
    after.Tended realm := by
  have shown : after.view = before.view := by rw [view, same]
  refine ⟨?_, ?_, ?_, ?_, fun other text index input sent created => ?_⟩
  · simpa only [shown, same] using tended.stored
  · simpa only [shown, same] using tended.listed
  · simpa only [shown] using tended.once
  · simpa only [shown] using tended.alone
  · rw [shown, same]
    rcases more other sent with rfl | old
    · obtain ⟨pending, stored, listed⟩ := asked text index input created
      cases block : other.block with
      | persisted => simp [block, RecordId.isPending] at pending
      | pending number =>
          rw [block] at stored listed
          exact ⟨number, rfl, tended.stored number stored,
            fun own => tended.alone number text own listed⟩
    · exact tended.asked other text index input old created

/-- Every turn keeps the pending ids in order. An unsaved realm has to be stored when a new block is
placed, or the block might be the realm. -/
theorem turn (tended : before.Tended realm)
    (known : ∀ defaults, allowed defaults → realm.isPending → (before.view realm).isSome)
    (turn : Turn allowed before after) : after.Tended realm := by
  cases turn with
  | tidied tidied fewer =>
      exact tended.of_recedes (.of_tidied tidied) (Nat.le_of_eq tidied.lastPending.symm) fewer
  | counted lastPending grown wrote fewer =>
      refine tended.of_recedes ?_ (wrote.lastPending_eq ▸ grown) fewer
      rw [show after.view = _ from wrote.view]
      exact .refl _
  | placed target index kind defaults plain fresh typed within wrote fewer =>
      obtain ⟨record, found, -⟩ := typed
      exact tended.placed fresh (by simp [found]) within (known defaults plain) wrote fewer
  | marked block on wrote fewer =>
      refine tended.of_recedes ?_ (Nat.le_of_eq wrote.lastPending_eq.symm) fewer
      rw [show after.view = _ from wrote.view]
      exact .mark _ block on
  | removed block realms pending named wrote fewer =>
      refine tended.of_recedes ?_ (Nat.le_of_eq wrote.lastPending_eq.symm) fewer
      rw [show after.view = _ from wrote.view]
      exact .remove _ block realms
  | merged snapshot closed wrote fewer =>
      refine tended.of_recedes ?_ (Nat.le_of_eq wrote.lastPending_eq.symm) fewer
      rw [show after.view = _ from wrote.view]
      exact .mergeSnapshot closed.toSaved _
  | adopted request text index input saved snapshot sent asked closed member present wrote fewer =>
      refine tended.of_recedes ?_ (Nat.le_of_eq wrote.lastPending_eq.symm) fewer
      rw [show after.view = _ from wrote.view]
      exact .adopt closed.toSaved _ _ _ (closed.isPending_eq_false member)
  | sent request same asked more => exact tended.sent same asked more

/-- Whatever happens in a session keeps the pending ids of a saved realm in order. -/
theorem turns {text : String} (tended : before.Tended (.persisted text))
    (turns : Turns allowed before after) : after.Tended (.persisted text) := by
  induction turns with
  | refl => exact tended
  | tail _ next induction => exact induction.turn (fun _ _ => nofun) next

theorem step {text : String} (tended : before.Tended (.persisted text)) {event : Event}
    (session : event.InSession fun _ => True) : (before.step event).2.Tended (.persisted text) :=
  tended.turns (turns_step session before)

/-- As long as no new block is inserted, the pending ids stay in order for any realm. -/
theorem step_of_forbidden {event : Event} (tended : before.Tended realm)
    (session : event.InSession fun _ => False) : (before.step event).2.Tended realm := by
  have turns := turns_step session before
  generalize (before.step event).2 = after at turns ⊢
  induction turns with
  | refl => exact tended
  | tail _ next induction => exact induction.turn (fun _ => False.elim) next

end Tended

theorem tended_start (table : RouteTable) (realm : RecordId) : (start table).Tended realm := by
  have absent (id : RecordId) : (start table).view id = none := rfl
  have none (id : RecordId) : (start table).view.blocks id = [] := rfl
  refine ⟨fun number present => ?_, fun id number _ listed => ?_, fun number => ?_,
    fun number text listed => ?_, ?_⟩
  · simp [absent] at present
  · simp [none] at listed
  · simp [none]
  · simp [none] at listed
  · rintro request text index input ⟨ticket, sent | sent⟩ - <;> simp [start] at sent

end Desk

end RealmDesk
