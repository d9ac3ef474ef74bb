import RealmDesk.Record.Basic

/-!
# Reachable records

A record is reachable from some ids if a chain of links leads from one of them to it. `unreached`
takes the reachable records out of a store one by one, so what is left over is what a garbage
collection has to evict. Each step takes out one record, which bounds the number of steps whatever
cycles the links make.
-/

namespace RealmDesk.Records

/-- A record is reached from some ids by the links of stored records. -/
inductive Reaches (records : Records) (roots : List RecordId) : RecordId → Prop where
  /-- The ids themselves are reached. -/
  | root {id : RecordId} (member : id ∈ roots) : Reaches records roots id
  /-- What a reached record links to is reached. -/
  | link {source target : RecordId} {record : Record} (reached : Reaches records roots source)
      (stored : records[source]? = some record) (linked : target ∈ record.targets) :
      Reaches records roots target

/-- The first of some ids under which a record stands, with the record. -/
def firstStored? (records : Records) (ids : List RecordId) : Option (RecordId × Record) :=
  ids.findSome? fun id => records[id]?.map (id, ·)

theorem stored_of_firstStored? {records : Records} {ids : List RecordId} {id : RecordId}
    {record : Record} (found : firstStored? records ids = some (id, record)) :
    id ∈ ids ∧ records[id]? = some record := by
  obtain ⟨candidate, member, same⟩ := List.exists_of_findSome?_eq_some found
  obtain ⟨present, stored, equal⟩ := Option.map_eq_some_iff.mp same
  cases equal
  exact ⟨member, stored⟩

theorem size_erase_lt {records : Records} {id : RecordId} {record : Record}
    (stored : records[id]? = some record) : (records.erase id).size < records.size := by
  have member : id ∈ records := Std.ExtTreeMap.mem_iff_isSome_getElem?.mpr (by simp [stored])
  have positive : records.size ≠ 0 := by
    intro zero
    rw [← Std.ExtTreeMap.eq_empty_iff_size_eq_zero] at zero
    subst zero
    exact Std.ExtTreeMap.not_mem_empty member
  rw [Std.ExtTreeMap.size_erase, if_pos (Std.ExtTreeMap.mem_iff_contains.mp member)]
  omega

/-- The records that no chain of links leads to from the pending ids. -/
def unreached (left : Records) (pending : List RecordId) : Records :=
  match _found : firstStored? left pending with
  | none => left
  | some (id, record) => unreached (left.erase id) (record.targets ++ pending)
termination_by left.size
decreasing_by exact size_erase_lt (stored_of_firstStored? _found).2

/-- The records without those of others. -/
def without (records others : Records) : Records :=
  records.filter fun id _ => !others.contains id

end RealmDesk.Records
