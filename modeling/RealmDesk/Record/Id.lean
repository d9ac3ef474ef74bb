import Std.Data.ExtTreeMap

/-!
# Record ids

A record that the server knows has the id the server gave it; a record that was made here and not
yet saved has a number. The two kinds of ids never meet: pending ids come before all others in the
order of ids, by number, and persisted ids follow in the order of their texts.
-/

namespace RealmDesk

/-- The id of a record. -/
inductive RecordId where
  /-- The id of a record that was never saved. -/
  | pending (number : Nat)
  /-- The id the server gave a record. -/
  | persisted (text : String)
deriving DecidableEq, Inhabited

namespace RecordId

/-- The order of ids. -/
protected def compare : RecordId → RecordId → Ordering
  | .pending left, .pending right => Ord.compare left right
  | .pending _, .persisted _ => .lt
  | .persisted _, .pending _ => .gt
  | .persisted left, .persisted right => Ord.compare left right

instance : Ord RecordId := ⟨RecordId.compare⟩

@[simp] theorem compare_pending (left right : Nat) :
    compare (pending left) (pending right) = compare left right := rfl

@[simp] theorem compare_persisted (left right : String) :
    compare (persisted left) (persisted right) = compare left right := rfl

@[simp] theorem compare_pending_persisted (number : Nat) (text : String) :
    compare (pending number) (persisted text) = .lt := rfl

@[simp] theorem compare_persisted_pending (text : String) (number : Nat) :
    compare (persisted text) (pending number) = .gt := rfl

instance : Std.TransOrd RecordId where
  eq_swap := by
    intro left right
    cases left <;> cases right <;>
      simp only [compare_pending, compare_persisted, compare_pending_persisted,
        compare_persisted_pending, Ordering.swap]
    · exact Std.OrientedCmp.eq_swap
    · exact Std.OrientedCmp.eq_swap
  isLE_trans := by
    intro left middle right
    cases left <;> cases middle <;> cases right <;>
      simp only [compare_pending, compare_persisted, compare_pending_persisted,
        compare_persisted_pending, Ordering.isLE, implies_true, Bool.false_eq_true,
        false_implies]
    · exact Std.TransCmp.isLE_trans
    · exact Std.TransCmp.isLE_trans

instance : Std.LawfulEqOrd RecordId where
  eq_of_compare := by
    intro left right same
    cases left <;> cases right <;>
      simp only [compare_pending, compare_persisted, compare_pending_persisted,
        compare_persisted_pending, reduceCtorEq] at same
    · rw [Std.LawfulEqOrd.eq_of_compare same]
    · rw [Std.LawfulEqOrd.eq_of_compare same]

/-- Whether the record was never saved. -/
def isPending : RecordId → Bool
  | .pending _ => true
  | .persisted _ => false

theorem exists_eq_pending {id : RecordId} (unsaved : id.isPending = true) :
    ∃ number, id = pending number := by
  cases id with
  | pending number => exact ⟨number, rfl⟩
  | persisted => cases unsaved

theorem exists_eq_persisted {id : RecordId} (saved : id.isPending = false) :
    ∃ text, id = persisted text := by
  cases id with
  | pending => cases saved
  | persisted text => exact ⟨text, rfl⟩

/-- The id the server gave, if it gave one. -/
def persisted? : RecordId → Option String
  | .pending _ => none
  | .persisted text => some text

/-- What the text of every pending id starts with. -/
def pendingMark : String := "client:pending:"

/-- The text that names an id in messages. -/
def text : RecordId → String
  | .pending number => pendingMark ++ number.repr
  | .persisted text => text

end RecordId

end RealmDesk
