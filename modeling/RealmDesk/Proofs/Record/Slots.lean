import Mathlib.Data.List.Basic
import Mathlib.Data.List.InsertIdx
import RealmDesk.Record.Id

/-!
# Slots of lists

What the insertion of an id into a list and the replacement of an id do to the rest of the list.
-/

namespace RealmDesk

variable {ids : List RecordId} {old new target : RecordId}

theorem mem_of_mem_replace (once : ids.count old ≤ 1) (different : new ≠ old)
    (listed : target ∈ ids.replace old new) : target = new ∨ (target ≠ old ∧ target ∈ ids) := by
  by_cases member : old ∈ ids
  · obtain ⟨front, back, rfl, earlier⟩ := List.eq_append_cons_of_mem member
    have later : old ∉ back := by
      rw [← List.count_eq_zero]
      rw [List.count_append, List.count_cons_self] at once
      omega
    rw [List.replace_append_right earlier, List.replace_cons_self, List.mem_append,
      List.mem_cons] at listed
    rcases listed with listed | rfl | listed
    · exact .inr ⟨fun same => earlier (same ▸ listed), List.mem_append_left _ listed⟩
    · exact .inl rfl
    · exact .inr ⟨fun same => later (same ▸ listed),
        List.mem_append_right _ (List.mem_cons_of_mem _ listed)⟩
  · rw [List.replace_of_not_mem member] at listed
    exact .inr ⟨fun same => member (same ▸ listed), listed⟩

theorem mem_replace_of_ne (notOld : target ≠ old) (notNew : target ≠ new) :
    target ∈ ids.replace old new ↔ target ∈ ids := by
  by_cases member : old ∈ ids
  · obtain ⟨front, back, rfl, earlier⟩ := List.eq_append_cons_of_mem member
    rw [List.replace_append_right earlier, List.replace_cons_self]
    simp [notOld, notNew]
  · rw [List.replace_of_not_mem member]

theorem replace_self (ids : List RecordId) (id : RecordId) : ids.replace id id = ids := by
  by_cases member : id ∈ ids
  · obtain ⟨front, back, rfl, earlier⟩ := List.eq_append_cons_of_mem member
    rw [List.replace_append_right earlier, List.replace_cons_self]
  · exact List.replace_of_not_mem member

theorem nodup_replace (distinct : ids.Nodup) (fresh : new ∉ ids) : (ids.replace old new).Nodup := by
  by_cases member : old ∈ ids
  · obtain ⟨front, back, rfl, earlier⟩ := List.eq_append_cons_of_mem member
    rw [List.replace_append_right earlier, List.replace_cons_self]
    have apart : new ∉ front ++ back := fun inside =>
      fresh (((List.sublist_cons_self old back).append_left front).subset inside)
    have rest : (front ++ back).Nodup :=
      distinct.sublist ((List.sublist_cons_self old back).append_left front)
    exact List.perm_middle.nodup_iff.mpr (List.nodup_cons.mpr ⟨apart, rest⟩)
  · rwa [List.replace_of_not_mem member]

theorem replace_cons_of_ne {id : RecordId} (different : id ≠ old) (ids : List RecordId) :
    (id :: ids).replace old new = id :: ids.replace old new := by
  rw [List.replace_cons, beq_eq_false_iff_ne.mpr different.symm]

/-- Replacements can be made in either order if neither brings or takes what the other takes. -/
theorem replace_comm {first second firstNew secondNew : RecordId} (different : first ≠ second)
    (firstApart : firstNew ≠ second) (secondApart : secondNew ≠ first) (ids : List RecordId) :
    (ids.replace first firstNew).replace second secondNew =
      (ids.replace second secondNew).replace first firstNew := by
  induction ids with
  | nil => rfl
  | cons id ids induction =>
      by_cases isFirst : id = first
      · subst isFirst
        rw [List.replace_cons_self, replace_cons_of_ne firstApart, replace_cons_of_ne different,
          List.replace_cons_self]
      · by_cases isSecond : id = second
        · subst isSecond
          rw [List.replace_cons_self, replace_cons_of_ne isFirst, replace_cons_of_ne secondApart,
            List.replace_cons_self]
        · rw [replace_cons_of_ne isFirst, replace_cons_of_ne isSecond, replace_cons_of_ne isSecond,
            replace_cons_of_ne isFirst, induction]

/-- Where an id stands once, taking out its slot takes out the id. -/
theorem erase_eq_filter (once : ids.count old ≤ 1) : ids.erase old = ids.filter (· != old) := by
  by_cases member : old ∈ ids
  · obtain ⟨front, back, rfl, earlier⟩ := List.eq_append_cons_of_mem member
    have later : old ∉ back := by
      rw [← List.count_eq_zero]
      rw [List.count_append, List.count_cons_self] at once
      omega
    have kept {part : List RecordId} (absent : old ∉ part) : part.filter (· != old) = part :=
      List.filter_eq_self.mpr fun id inside => by
        simpa using fun same : id = old => absent (same ▸ inside)
    rw [List.erase_append_right _ earlier, List.erase_cons_head, List.filter_append,
      List.filter_cons_of_neg (by simp), kept earlier, kept later]
  · rw [List.erase_of_not_mem member]
    exact (List.filter_eq_self.mpr fun id inside => by
      simpa using fun same : id = old => member (same ▸ inside)).symm

theorem nodup_insertIdx {α : Type} {items : List α} {item : α} {index : Nat}
    (within : index ≤ items.length) (distinct : items.Nodup) (fresh : item ∉ items) :
    (items.insertIdx index item).Nodup :=
  (List.perm_insertIdx item items within).nodup_iff.mpr (List.nodup_cons.mpr ⟨fresh, distinct⟩)

theorem insertIdx_eq_take_append_cons_drop {α : Type} {items : List α} {index : Nat}
    (within : index ≤ items.length) (item : α) :
    items.insertIdx index item = items.take index ++ item :: items.drop index := by
  obtain ⟨before, behind, rfl, rfl, inserted⟩ :=
    List.exists_of_modifyTailIdx (item :: ·) within
  rw [List.insertIdx, inserted, List.take_left, List.drop_left]

/-- Taking out what was inserted gives the list back. -/
theorem filter_ne_insertIdx {index : Nat} (within : index ≤ ids.length) (fresh : new ∉ ids) :
    (ids.insertIdx index new).filter (· != new) = ids := by
  have kept (id : RecordId) (listed : id ∈ ids) : (id != new) = true := by
    simpa using fun same : id = new => fresh (same ▸ listed)
  rw [insertIdx_eq_take_append_cons_drop within, List.filter_append,
    List.filter_cons_of_neg (by simp), ← List.filter_append, List.take_append_drop,
    List.filter_eq_self.mpr kept]

theorem filterMap_filter_ne {α : Type} {name : RecordId → Option α}
    (nameless : old ∈ ids → name old = none) :
    (ids.filter (· != old)).filterMap name = ids.filterMap name := by
  rw [List.filterMap_filter]
  refine List.filterMap_congr fun id member => ?_
  by_cases same : id = old
  · subst same
    simp [nameless member]
  · simp [same]

/-- Where a fresh item goes in says what the list was and how long its front is. -/
theorem append_eq_insertIdx_iff {α : Type} {items front back : List α} {item : α} {index : Nat}
    (within : index ≤ items.length) (fresh : item ∉ items) :
    front ++ item :: back = items.insertIdx index item ↔
      front ++ back = items ∧ index = front.length := by
  obtain ⟨before, behind, rfl, rfl, inserted⟩ :=
    List.exists_of_modifyTailIdx (item :: ·) within
  rw [List.mem_append, not_or] at fresh
  rw [List.insertIdx, inserted, eq_comm, List.append_cons_inj_of_notMem fresh.1 fresh.2]
  constructor
  · rintro ⟨rfl, -, rfl⟩
    exact ⟨rfl, rfl⟩
  · rintro ⟨same, length⟩
    obtain ⟨rfl, rfl⟩ := List.append_inj same length.symm
    exact ⟨rfl, rfl, rfl⟩

end RealmDesk
