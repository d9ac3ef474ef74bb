import Mathlib.Logic.Function.Basic
import RealmDesk.Proofs.Record.Zeros
import RealmDesk.Proofs.Store.Command
import RealmDesk.Store.Cache

/-!
# The view of a store

The view of some records is the function from ids to records, up to the sign of zeros. A draft has
the view that its layer shows, and a local update that succeeds gives the store the view of its
draft: leaving out writes that change nothing does not show.
-/

namespace RealmDesk

/-- Records by their ids, as a function. -/
abbrev View := RecordId → Option Record

/-- The view of some records. -/
def Records.view (records : Records) : View :=
  fun id => records[id]?.map Record.unsignedZeros

theorem Records.isSome_view {records : Records} {id : RecordId} :
    (records.view id).isSome ↔ id ∈ records := by
  rw [view, Option.isSome_map, Std.ExtTreeMap.mem_iff_isSome_getElem?]

theorem Records.same_iff_view {left right : Records} :
    left.Same right ↔ left.view = right.view := by
  have lookUp (records : Records) (id : RecordId) :
      (unsignedZeros records)[id]? = records.view id := by
    simp [unsignedZeros, view, Std.ExtTreeMap.getElem?_map]
  constructor
  · intro same
    funext id
    rw [← lookUp, ← lookUp, same]
  · intro same
    apply Std.ExtTreeMap.ext_getElem?
    intro id
    rw [lookUp, lookUp, same]

/-- The view of a draft. -/
def Draft.view (draft : Draft) : View :=
  fun id => (draft.get? id).map Record.unsignedZeros

/-- The view with an incoming record merged into the one under its id. -/
def View.merge (view : View) (id : RecordId) (incoming : Record) : View :=
  Function.update view id (some ((view id).elim incoming (·.merge incoming)))

/-- The view with a snapshot merged, record by record. -/
def View.mergeSnapshot (view : View) (snapshot : Snapshot) : View :=
  snapshot.entries.foldl (fun view entry => view.merge entry.1 entry.2.unsignedZeros) view

theorem lookup_toList {α : Type} (table : Std.ExtTreeMap RecordId α) (id : RecordId) :
    table.toList.lookup id = table[id]? := by
  cases found : table.toList.lookup id with
  | none =>
      cases present : table[id]? with
      | none => rfl
      | some value =>
          have member := Std.ExtTreeMap.mem_toList_iff_getElem?_eq_some.mpr present
          simpa using List.lookup_eq_none_iff.mp found _ member
  | some value =>
      obtain ⟨front, back, split, -⟩ := List.lookup_eq_some_iff.mp found
      have member : (id, value) ∈ table.toList := by simp [split]
      exact (Std.ExtTreeMap.mem_toList_iff_getElem?_eq_some.mp member).symm

theorem pairwise_ne_toList {α : Type} (table : Std.ExtTreeMap RecordId α) :
    table.toList.Pairwise fun left right => left.1 ≠ right.1 :=
  Std.ExtTreeMap.distinct_keys_toList.imp fun unequal same => unequal (by simp [same])

theorem mem_values {α : Type} {table : Std.ExtTreeMap Nat α} {value : α} :
    value ∈ table.values ↔ ∃ number : Nat, table[number]? = some value := by
  have folded : table.values = table.foldr (fun _ value rest => value :: rest) [] := by
    obtain ⟨⟨inner⟩⟩ := table
    induction inner using Quotient.inductionOn with
    | h tree => rfl
  have listed : table.values = table.toList.map Prod.snd := by
    rw [folded, Std.ExtTreeMap.foldr_eq_foldr_toList]
    induction table.toList with
    | nil => rfl
    | cons entry entries induction => rw [List.foldr_cons, induction, List.map_cons]
  simp [listed, Std.ExtTreeMap.mem_toList_iff_getElem?_eq_some]

theorem RecordChange.mem_differing {before after : Record} {field : String} :
    field ∈ differing before after ↔ agreesOn before after field = false := by
  rw [differing, List.mem_filter, Bool.not_eq_true']
  constructor
  · exact And.right
  · intro differ
    refine ⟨?_, differ⟩
    rw [Std.ExtTreeMap.mem_keys, Std.ExtTreeMap.mem_iff_isSome_getElem?,
      FieldMap.getElem?_merge]
    rw [agreesOn, Record.get?, Record.get?, beq_eq_false_iff_ne] at differ
    cases left : before.fields[field]? <;> cases right : after.fields[field]? <;> simp_all

theorem RecordChange.unsignedZeros_of_between?_eq_none {before after : Record}
    (unchanged : between? before after = none) : before.unsignedZeros = after.unsignedZeros := by
  rw [between?] at unchanged
  split at unchanged
  case isTrue => cases unchanged
  case isFalse tags =>
    have none : differing before after = [] := by
      cases names : differing before after with
      | nil => rfl
      | cons => simp [names] at unchanged
    refine Record.eq_of_get? (not_not.mp tags) ?_
    intro field
    have agree : agreesOn before after field = true := by
      by_contra differ
      have listed := mem_differing.mpr (by simpa using differ)
      rw [none] at listed
      cases listed
    simpa [agreesOn] using agree

theorem RecordChange.map_unsignedZeros_of_of?_eq_none {before after : Option Record}
    (unchanged : of? before after = none) :
    before.map Record.unsignedZeros = after.map Record.unsignedZeros := by
  cases before with
  | none =>
      cases after with
      | none => rfl
      | some => simp [of?] at unchanged
  | some before =>
      cases after with
      | none => simp [of?] at unchanged
      | some after => exact congrArg some (unsignedZeros_of_between?_eq_none unchanged)

namespace Store

theorem getElem?_land_of_ne (store : Store) (records : Records) {id other : RecordId}
    (next : Option Record) (different : id ≠ other) :
    (store.land records id next)[other]? = records[other]? := by
  cases changed : store.change? id next with
  | none => simp [land, changed]
  | some change =>
      cases next with
      | none => simp [land, changed, Std.ExtTreeMap.getElem?_erase, different]
      | some record => simp [land, changed, Std.ExtTreeMap.getElem?_insert, different]

theorem getElem?_land_self (store : Store) (records : Records) (id : RecordId)
    (next : Option Record) :
    (store.land records id next)[id]? =
      if store.change? id next = none then records[id]? else next := by
  cases changed : store.change? id next with
  | none => simp [land, changed]
  | some change => cases next <;> simp [land, changed]

private theorem getElem?_foldl_land (store : Store) (entries : List (RecordId × Option Record))
    (distinct : entries.Pairwise fun left right => left.1 ≠ right.1) (records : Records)
    (id : RecordId) :
    (entries.foldl (fun records entry => store.land records entry.1 entry.2) records)[id]? =
      match entries.lookup id with
      | none => records[id]?
      | some next => if store.change? id next = none then records[id]? else next := by
  induction entries generalizing records with
  | nil => rfl
  | cons entry entries induction =>
      obtain ⟨written, next⟩ := entry
      rw [List.pairwise_cons] at distinct
      rw [List.foldl_cons, induction distinct.2]
      by_cases same : id = written
      · subst same
        have later : entries.lookup id = none := by
          rw [List.lookup_eq_none_iff]
          intro entry member
          simpa using distinct.1 entry member
        simp only [later, List.lookup_cons_self]
        exact getElem?_land_self store records id next
      · simp only [List.lookup_cons, beq_eq_false_iff_ne.mpr same]
        rw [getElem?_land_of_ne store records next (Ne.symm same)]

/-- A staged record stands in the store afterwards, unless it changes nothing. -/
theorem getElem?_landed (store : Store) (staged : Std.ExtTreeMap RecordId (Option Record))
    (id : RecordId) :
    (store.landed staged)[id]? =
      match staged[id]? with
      | none => store.records[id]?
      | some next => if store.change? id next = none then store.records[id]? else next := by
  rw [landed, Std.ExtTreeMap.foldl_eq_foldl_toList,
    getElem?_foldl_land _ _ (pairwise_ne_toList staged), lookup_toList]

/-- The records that land have the view of the draft. -/
theorem view_landed {store : Store} {draft : Draft} (base : draft.base = store.records) :
    Records.view (store.landed draft.staged) = draft.view := by
  funext id
  rw [Records.view, getElem?_landed, Draft.view, Draft.get?, base]
  cases draft.staged[id]? with
  | none => rfl
  | some next =>
      by_cases unchanged : store.change? id next = none
      · simpa [unchanged] using RecordChange.map_unsignedZeros_of_of?_eq_none unchanged
      · simp [unchanged]

end Store

end RealmDesk
