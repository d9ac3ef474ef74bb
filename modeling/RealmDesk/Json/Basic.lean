import RealmDesk.Json.Double

/-!
# JSON values

A number is an integer or a double, and the two are never the same value. Objects list their
members in ascending order of their keys, each key once; `Json.object` builds such a list from any
other, of repeated keys the last one wins. Two values are `Same` when they agree after every
negative zero is read as zero.
-/

namespace RealmDesk

/-- A JSON value. -/
inductive Json where
  /-- The value `null`. -/
  | null
  /-- A truth value. -/
  | bool (value : Bool)
  /-- A number written without a fraction and an exponent, within 64 bits. -/
  | int (value : Int)
  /-- Any other number. -/
  | double (value : Double)
  /-- A text. -/
  | str (value : String)
  /-- A list of values. -/
  | arr (items : List Json)
  /-- An object, by its members. -/
  | obj (members : List (String × Json))
deriving Inhabited

namespace Json

mutual

/-- Whether two values are equal, bit by bit. -/
def beq : Json → Json → Bool
  | .null, .null => true
  | .bool left, .bool right => left == right
  | .int left, .int right => left == right
  | .double left, .double right => left == right
  | .str left, .str right => left == right
  | .arr left, .arr right => beqItems left right
  | .obj left, .obj right => beqMembers left right
  | _, _ => false

/-- Whether two lists of values are equal. -/
def beqItems : List Json → List Json → Bool
  | [], [] => true
  | left :: lefts, right :: rights => beq left right && beqItems lefts rights
  | _, _ => false

/-- Whether two lists of members are equal. -/
def beqMembers : List (String × Json) → List (String × Json) → Bool
  | [], [] => true
  | (leftKey, left) :: lefts, (rightKey, right) :: rights =>
      leftKey == rightKey && beq left right && beqMembers lefts rights
  | _, _ => false

end

mutual

private theorem eq_of_beq : ∀ {left right : Json}, beq left right = true → left = right := by
  intro left right agree
  cases left <;> cases right <;> simp only [beq, Bool.false_eq_true, beq_iff_eq] at agree
  · rfl
  · rw [agree]
  · rw [agree]
  · rw [agree]
  · rw [agree]
  · exact congrArg arr (eq_of_beqItems agree)
  · exact congrArg obj (eq_of_beqMembers agree)

private theorem eq_of_beqItems :
    ∀ {left right : List Json}, beqItems left right = true → left = right
  | [], [], _ => rfl
  | [], _ :: _, agree => by simp [beqItems] at agree
  | _ :: _, [], agree => by simp [beqItems] at agree
  | _ :: _, _ :: _, agree => by
      simp only [beqItems, Bool.and_eq_true] at agree
      rw [eq_of_beq agree.1, eq_of_beqItems agree.2]

private theorem eq_of_beqMembers :
    ∀ {left right : List (String × Json)}, beqMembers left right = true → left = right
  | [], [], _ => rfl
  | [], _ :: _, agree => by simp [beqMembers] at agree
  | _ :: _, [], agree => by simp [beqMembers] at agree
  | (_, _) :: _, (_, _) :: _, agree => by
      simp only [beqMembers, Bool.and_eq_true, beq_iff_eq] at agree
      rw [agree.1.1, eq_of_beq agree.1.2, eq_of_beqMembers agree.2]

end

mutual

private theorem beq_self : ∀ value : Json, beq value value = true
  | .null => rfl
  | .bool _ | .int _ | .double _ | .str _ => by simp [beq]
  | .arr items => by simp [beq, beqItems_self items]
  | .obj members => by simp [beq, beqMembers_self members]

private theorem beqItems_self : ∀ items : List Json, beqItems items items = true
  | [] => rfl
  | item :: items => by simp [beqItems, beq_self item, beqItems_self items]

private theorem beqMembers_self :
    ∀ members : List (String × Json), beqMembers members members = true
  | [] => rfl
  | (_, value) :: members => by simp [beqMembers, beq_self value, beqMembers_self members]

end

instance : DecidableEq Json := fun left right =>
  if agree : beq left right = true then
    isTrue (eq_of_beq agree)
  else
    isFalse fun equal => agree (equal ▸ beq_self left)

mutual

/-- The value with every negative zero read as zero. -/
def unsignedZeros : Json → Json
  | .double value => .double value.unsignedZero
  | .arr items => .arr (unsignedItems items)
  | .obj members => .obj (unsignedMembers members)
  | other => other

/-- The items with every negative zero read as zero. -/
def unsignedItems : List Json → List Json
  | [] => []
  | item :: items => unsignedZeros item :: unsignedItems items

/-- The members with every negative zero read as zero. -/
def unsignedMembers : List (String × Json) → List (String × Json)
  | [] => []
  | (key, value) :: members => (key, unsignedZeros value) :: unsignedMembers members

end

mutual

@[simp] theorem unsignedZeros_unsignedZeros :
    ∀ value : Json, value.unsignedZeros.unsignedZeros = value.unsignedZeros
  | .null | .bool _ | .int _ | .str _ => rfl
  | .double value => by simp [unsignedZeros]
  | .arr items => by simp [unsignedZeros, unsignedItems_unsignedItems items]
  | .obj members => by simp [unsignedZeros, unsignedMembers_unsignedMembers members]

@[simp] theorem unsignedItems_unsignedItems :
    ∀ items : List Json, unsignedItems (unsignedItems items) = unsignedItems items
  | [] => rfl
  | item :: items => by
      simp [unsignedItems, unsignedZeros_unsignedZeros item, unsignedItems_unsignedItems items]

@[simp] theorem unsignedMembers_unsignedMembers :
    ∀ members : List (String × Json),
      unsignedMembers (unsignedMembers members) = unsignedMembers members
  | [] => rfl
  | (_, value) :: members => by
      simp [unsignedMembers, unsignedZeros_unsignedZeros value,
        unsignedMembers_unsignedMembers members]

end

/-- The same value: zero and negative zero are not told apart. -/
def Same (left right : Json) : Prop :=
  left.unsignedZeros = right.unsignedZeros

instance (left right : Json) : Decidable (Same left right) :=
  inferInstanceAs (Decidable (_ = _))

/-- Puts a member into an ascending list of members, in the place of one with the same key. -/
def insertMember (key : String) (value : Json) : List (String × Json) → List (String × Json)
  | [] => [(key, value)]
  | (first, firstValue) :: members =>
      if key < first then (key, value) :: (first, firstValue) :: members
      else if key = first then (key, value) :: members
      else (first, firstValue) :: insertMember key value members

/-- The object with the given members; of repeated keys the last one wins. -/
def object (members : List (String × Json)) : Json :=
  .obj (members.foldl (fun sorted member => insertMember member.1 member.2 sorted) [])

mutual

/-- Whether every object lists its keys in strictly ascending order. -/
def isOrdered : Json → Bool
  | .arr items => areOrderedItems items
  | .obj members => areOrderedMembers members
  | _ => true

/-- Whether every object within a list lists its keys in ascending order. -/
def areOrderedItems : List Json → Bool
  | [] => true
  | item :: items => isOrdered item && areOrderedItems items

/-- Whether members are in ascending order of their keys, and so is every object within them. -/
def areOrderedMembers : List (String × Json) → Bool
  | [] => true
  | (key, value) :: members =>
      isOrdered value && areOrderedMembers members &&
        (match members with
        | [] => true
        | (next, _) :: _ => decide (key < next))

end

/-- The value of a member, if the value is an object with that key. -/
def member? (key : String) : Json → Option Json
  | .obj members => members.lookup key
  | _ => none

/-- The value of a member, `null` if there is none. -/
def get (value : Json) (key : String) : Json :=
  (value.member? key).getD .null

/-- The truth value, if it is one. -/
def bool? : Json → Option Bool
  | .bool value => some value
  | _ => none

/-- The text, if it is one. -/
def str? : Json → Option String
  | .str value => some value
  | _ => none

/-- The integer, if it is one that fits a signed 64-bit number. -/
def int64? : Json → Option Int
  | .int value =>
      if -0x8000000000000000 ≤ value && value < 0x8000000000000000 then some value else none
  | _ => none

/-- The items, if it is a list. -/
def items? : Json → Option (List Json)
  | .arr items => some items
  | _ => none

/-- The members, if it is an object. -/
def members? : Json → Option (List (String × Json))
  | .obj members => some members
  | _ => none

end Json

end RealmDesk
