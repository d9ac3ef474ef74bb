import RealmDesk.Record.Basic

/-!
# Records up to the sign of zeros

Reading every negative zero as zero keeps the type and the links of a record, and commutes with
every way of writing one. Whatever is known of a record up to the sign of zeros is therefore known
of its links.
-/

namespace RealmDesk

namespace FieldValue

@[simp] theorem links?_unsignedZeros (value : FieldValue) :
    value.unsignedZeros.links? = value.links? := by
  cases value <;> rfl

@[simp] theorem unsignedZeros_links (targets : List RecordId) :
    (links targets).unsignedZeros = links targets := rfl

theorem targets_of_links? {value : FieldValue} {targets : List RecordId}
    (list : value.links? = some targets) : value.targets = targets := by
  cases value with
  | scalar => simp [links?] at list
  | link => simp [links?] at list
  | links => simpa [links?, FieldValue.targets] using list

theorem eq_links_of_same {value : FieldValue} {targets : List RecordId}
    (same : value.Same (.links targets)) : value = .links targets := by
  cases value with
  | scalar => cases same
  | link => cases same
  | links => exact same

theorem eq_bool_of_same {value : FieldValue} {on : Bool}
    (same : value.Same (.scalar (.bool on))) : value = .scalar (.bool on) := by
  cases value with
  | scalar json =>
      cases json with
      | bool => exact same
      | _ => cases same
  | link => cases same
  | links => cases same

end FieldValue

namespace Record

/-- Records with the same type and the same fields are equal. -/
theorem eq_of_get? {left right : Record} (tags : left.typeTag = right.typeTag)
    (fields : ∀ field, left.get? field = right.get? field) : left = right := by
  obtain ⟨leftTag, leftFields⟩ := left
  obtain ⟨rightTag, rightFields⟩ := right
  have sameFields : leftFields = rightFields := Std.ExtTreeMap.ext_getElem? fields
  simp_all

@[simp] theorem get?_set_self (record : Record) (field : String) (value : FieldValue) :
    (record.set field value).get? field = some value := by
  simp [set, get?]

theorem get?_set_of_ne (record : Record) {field other : String} (value : FieldValue)
    (different : other ≠ field) : (record.set field value).get? other = record.get? other := by
  simp [set, get?, Std.ExtTreeMap.getElem?_insert, different.symm]

theorem set_set_of_get? {record : Record} {field : String} {value : FieldValue}
    (named : record.get? field = some value) (other : FieldValue) :
    (record.set field other).set field value = record := by
  refine eq_of_get? rfl ?_
  intro name
  by_cases same : name = field
  · rw [same, get?_set_self, named]
  · rw [get?_set_of_ne _ _ same, get?_set_of_ne _ _ same]

@[simp] theorem get?_merge (record incoming : Record) (field : String) :
    (record.merge incoming).get? field = (incoming.get? field).or (record.get? field) := by
  simp [merge, get?]

theorem get?_erase (record : Record) (erased field : String) :
    (record.erase erased).get? field = if erased = field then none else record.get? field := by
  simp [erase, get?, Std.ExtTreeMap.getElem?_erase]

@[simp] theorem links?_set_self (record : Record) (field : String) (targets : List RecordId) :
    (record.set field (.links targets)).links? field = some targets := by
  simp [links?, FieldValue.links?]

@[simp] theorem links_set_self (record : Record) (field : String) (targets : List RecordId) :
    (record.set field (.links targets)).links field = targets := by
  simp [links]

theorem links_set_of_ne (record : Record) {field other : String} (value : FieldValue)
    (different : other ≠ field) :
    (record.set field value).links other = record.links other := by
  simp [links, links?, get?_set_of_ne record value different]

theorem links_merge_of_absent (record : Record) {incoming : Record} {field : String}
    (absent : incoming.get? field = none) :
    (record.merge incoming).links field = record.links field := by
  simp [links, links?, absent]

theorem links?_merge_of_present (record : Record) {incoming : Record} {field : String}
    {targets : List RecordId} (present : incoming.links? field = some targets) :
    (record.merge incoming).links? field = some targets := by
  obtain ⟨value, named, list⟩ := Option.bind_eq_some_iff.mp present
  simp [links?, named, list]

/-- A record links to an id in one of its fields. -/
def LinksTo (record : Record) (field : String) (target : RecordId) : Prop :=
  ∃ value, record.get? field = some value ∧ target ∈ value.targets

theorem mem_targets {record : Record} {target : RecordId} :
    target ∈ record.targets ↔ ∃ field, record.LinksTo field target := by
  simp only [targets, List.mem_flatMap, Prod.exists, LinksTo, get?,
    Std.ExtTreeMap.mem_toList_iff_getElem?_eq_some]

theorem linksTo_of_mem_links {record : Record} {field : String} {target : RecordId}
    (listed : target ∈ record.links field) : record.LinksTo field target := by
  cases named : record.get? field with
  | none => simp [links, links?, named] at listed
  | some value =>
      cases list : value.links? with
      | none => simp [links, links?, named, list] at listed
      | some targets =>
          refine ⟨value, named, ?_⟩
          rw [FieldValue.targets_of_links? list]
          simpa [links, links?, named, list] using listed

theorem linksTo_set {record : Record} {field other : String} {value : FieldValue}
    {target : RecordId} (linked : (record.set field value).LinksTo other target) :
    (other = field ∧ target ∈ value.targets) ∨ (other ≠ field ∧ record.LinksTo other target) := by
  obtain ⟨found, named, member⟩ := linked
  by_cases same : other = field
  · subst same
    rw [get?_set_self] at named
    obtain rfl := Option.some.inj named
    exact .inl ⟨rfl, member⟩
  · rw [get?_set_of_ne record value same] at named
    exact .inr ⟨same, found, named, member⟩

theorem linksTo_merge {record incoming : Record} {field : String} {target : RecordId}
    (linked : (record.merge incoming).LinksTo field target) :
    incoming.LinksTo field target ∨
      (incoming.get? field = none ∧ record.LinksTo field target) := by
  obtain ⟨value, named, member⟩ := linked
  rw [get?_merge, Option.or_eq_some_iff] at named
  rcases named with named | ⟨absent, named⟩
  · exact .inl ⟨value, named, member⟩
  · exact .inr ⟨absent, value, named, member⟩

theorem linksTo_of_erase {record : Record} {erased field : String} {target : RecordId}
    (linked : (record.erase erased).LinksTo field target) : record.LinksTo field target := by
  obtain ⟨value, named, member⟩ := linked
  rw [get?_erase] at named
  split at named
  · cases named
  · exact ⟨value, named, member⟩

@[simp] theorem get?_unsignedZeros (record : Record) (field : String) :
    record.unsignedZeros.get? field = (record.get? field).map FieldValue.unsignedZeros := by
  simp [unsignedZeros, get?, Std.ExtTreeMap.getElem?_map]

@[simp] theorem links?_unsignedZeros (record : Record) (field : String) :
    record.unsignedZeros.links? field = record.links? field := by
  cases named : record.get? field <;> simp [links?, named]

@[simp] theorem links_unsignedZeros (record : Record) (field : String) :
    record.unsignedZeros.links field = record.links field := by
  simp [links]

@[simp] theorem linksTo_unsignedZeros {record : Record} {field : String} {target : RecordId} :
    record.unsignedZeros.LinksTo field target ↔ record.LinksTo field target := by
  cases named : record.get? field <;> simp [LinksTo, named]

theorem unsignedZeros_set (record : Record) (field : String) (value : FieldValue) :
    (record.set field value).unsignedZeros =
      record.unsignedZeros.set field value.unsignedZeros := by
  refine eq_of_get? rfl ?_
  intro other
  by_cases same : other = field
  · subst same
    simp
  · simp [get?_set_of_ne _ _ same]

/-- A write that is left out because the field holds the value already is no different from one
that is carried out. -/
theorem unsignedZeros_update (record : Record) (field : String) (value : FieldValue) :
    (record.update field value).unsignedZeros =
      record.unsignedZeros.set field value.unsignedZeros := by
  rw [update]
  split
  case isFalse => exact unsignedZeros_set record field value
  case isTrue held =>
    obtain ⟨present, named, same⟩ := Option.any_eq_true _ _ |>.mp held
    have agree : present.unsignedZeros = value.unsignedZeros := of_decide_eq_true same
    refine eq_of_get? rfl ?_
    intro other
    by_cases equal : other = field
    · subst equal
      simp [named, agree]
    · simp [get?_set_of_ne _ _ equal]

theorem update_eq_set {value : FieldValue}
    (only : ∀ present : FieldValue, present.Same value → present = value) (record : Record)
    (field : String) : record.update field value = record.set field value := by
  rw [update]
  split
  case isFalse => rfl
  case isTrue held =>
    obtain ⟨present, named, same⟩ := Option.any_eq_true _ _ |>.mp held
    obtain rfl := only present (of_decide_eq_true same)
    refine eq_of_get? rfl ?_
    intro other
    by_cases equal : other = field
    · rw [equal, get?_set_self, named]
    · rw [get?_set_of_ne record _ equal]

theorem update_links (record : Record) (field : String) (targets : List RecordId) :
    record.update field (.links targets) = record.set field (.links targets) :=
  update_eq_set (fun _ => FieldValue.eq_links_of_same) record field

theorem update_bool (record : Record) (field : String) (on : Bool) :
    record.update field (.scalar (.bool on)) = record.set field (.scalar (.bool on)) :=
  update_eq_set (fun _ => FieldValue.eq_bool_of_same) record field

theorem unsignedZeros_merge (record incoming : Record) :
    (record.merge incoming).unsignedZeros =
      record.unsignedZeros.merge incoming.unsignedZeros := by
  refine eq_of_get? rfl ?_
  intro field
  cases named : incoming.get? field <;> simp [named]

end Record

end RealmDesk
