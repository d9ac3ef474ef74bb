import RealmDesk.Proofs.Answer.Merging
import RealmDesk.Proofs.Editing.Values
import RealmDesk.Proofs.Saving.Requests
import RealmDesk.Proofs.Visit.Pledges
import RealmDesk.Visit.Verdict

/-!
# Verdicts on answers

The verdict on a page is read off the shared records, which may have held anything before the
answer. An answer gives the type of every record that it links to, and it is assumed to say whether
the user may edit a realm, as every query asks for this. Both count once the answer is merged. So
the kind of the verdict and the realm that is shown follow from the answer, and earlier records only
fill in the fields of that realm which the answer leaves out.
-/

namespace RealmDesk

@[simp] theorem FieldValue.int64?_unsignedZeros (value : FieldValue) :
    value.unsignedZeros.int64? = value.int64? := by
  rcases value with json | - | -
  · cases json <;> rfl
  · rfl
  · rfl

namespace Record

@[simp] theorem int64?_unsignedZeros (record : Record) (field : String) :
    record.unsignedZeros.int64? field = record.int64? field := by
  cases named : record.get? field <;> simp [int64?, named]

/-- A record as it is merged over one that may be there. -/
def laidOver (given : Record) (below : Option Record) : Record :=
  below.elim given (·.merge given)

@[simp] theorem typeTag_laidOver (given : Record) (below : Option Record) :
    (given.laidOver below).typeTag = given.typeTag := by
  cases below <;> rfl

theorem get?_over_of_isSome {given : Record} {field : String}
    (named : (given.get? field).isSome) (below : Option Record) :
    (given.laidOver below).get? field = given.get? field := by
  obtain ⟨value, named⟩ := Option.isSome_iff_exists.mp named
  cases below <;> simp [laidOver, named]

theorem unsignedZeros_laidOver (given : Record) (below : Option Record) :
    (given.laidOver below).unsignedZeros =
      given.unsignedZeros.laidOver (below.map Record.unsignedZeros) := by
  cases below with
  | none => rfl
  | some record => exact record.unsignedZeros_merge given

end Record

namespace RealmView

/-- Two realms as pages show them that differ at most in fields which a record does not have. -/
structure AgreeOn (given : Record) (left right : RealmView) : Prop where
  id : left.id = right.id
  canCurrentUserEdit : left.canCurrentUserEdit = right.canCurrentUserEdit
  name : (given.get? Field.name).isSome → left.name = right.name
  path : (given.get? Field.path).isSome → left.path = right.path
  isRoot : (given.get? Field.isRoot).isSome → left.isRoot = right.isRoot
  numberOfDescendants : (given.get? Field.numberOfDescendants).isSome →
    left.numberOfDescendants = right.numberOfDescendants
  blocks : (given.get? Field.blocks).isSome → left.blocks = right.blocks
  children : (given.get? Field.children).isSome → left.children = right.children

variable {id : RecordId} {given : Record}

theorem ofRecord?_unsignedZeros (id : RecordId) (record : Record) :
    ofRecord? id record.unsignedZeros = ofRecord? id record := by
  have tag : record.unsignedZeros.typeTag = record.typeTag := rfl
  simp [ofRecord?, tag]

theorem ofRecord?_of_same (id : RecordId) {record other : Record} (same : record.Same other) :
    ofRecord? id record = ofRecord? id other := by
  rw [← ofRecord?_unsignedZeros, same, ofRecord?_unsignedZeros]

theorem ofRecord?_of_ne {record : Record} (other : record.typeTag ≠ realmType) :
    ofRecord? id record = none :=
  if_neg other

theorem typeTag_of_ofRecord? {record : Record} {view : RealmView}
    (shown : ofRecord? id record = some view) : record.typeTag = realmType := by
  by_contra other
  rw [ofRecord?_of_ne other] at shown
  cases shown

/-- What a record says of the rights of the user counts, whatever it is merged over. -/
theorem exists_ofRecord?_laidOver (id : RecordId) (tag : given.typeTag = realmType)
    (flagged : (given.get? Field.canCurrentUserEdit).isSome) (below : Option Record) :
    ∃ view, ofRecord? id (given.laidOver below) = some view ∧
      view.canCurrentUserEdit = (given.bool? Field.canCurrentUserEdit).getD false := by
  rw [ofRecord?, if_pos (by simp [tag])]
  refine ⟨_, rfl, ?_⟩
  simp only [Record.bool?, Record.get?_over_of_isSome flagged]

/-- A record that is merged over different ones is shown the same in the fields that it has. -/
theorem agreeOn_of_ofRecord? (flagged : (given.get? Field.canCurrentUserEdit).isSome)
    {first second : Option Record} {left right : RealmView}
    (shown : ofRecord? id (given.laidOver first) = some left)
    (other : ofRecord? id (given.laidOver second) = some right) : left.AgreeOn given right := by
  have tag : given.typeTag = realmType := by simpa using typeTag_of_ofRecord? shown
  rw [ofRecord?, if_pos (by simp [tag])] at shown other
  obtain rfl := Option.some.inj shown
  obtain rfl := Option.some.inj other
  have same {field : String} (named : (given.get? field).isSome) :
      (given.laidOver first).get? field = (given.laidOver second).get? field :=
    (Record.get?_over_of_isSome named first).trans (Record.get?_over_of_isSome named second).symm
  constructor
  case id => rfl
  case canCurrentUserEdit => simp only [Record.bool?, same flagged]
  case name => exact fun named => by simp only [Record.str?, same named]
  case path => exact fun named => by simp only [Record.str?, same named]
  case isRoot => exact fun named => by simp only [Record.bool?, same named]
  case numberOfDescendants => exact fun named => by simp only [Record.int64?, same named]
  case blocks => exact fun named => by simp only [Record.links, Record.links?, same named]
  case children => exact fun named => by simp only [Record.links, Record.links?, same named]

end RealmView

/-! ## What a verdict says -/

/-- The root field that links to the realm of a place. -/
def Place.realmField? : Place → Option String
  | .addChild _ => some "parent"
  | .realmSettings _ | .realmContent _ => some "realm"
  | .dashboard | .videos _ => none

/-- If an answer links to the realm of a place, it says whether the user may edit it. -/
def Normalized.Flags (answer : Normalized) (place : Place) : Prop :=
  ∀ field ∈ place.realmField?, ∀ entry ∈ answer.linked? field, entry.2.typeTag = realmType →
    (entry.2.get? Field.canCurrentUserEdit).isSome

instance (answer : Normalized) (place : Place) : Decidable (answer.Flags place) :=
  inferInstanceAs (Decidable (∀ _ ∈ _, _))

theorem Normalized.root_ne_link_of_linked? {result : ApiResult Json} {answer : Normalized}
    (read : ofResult result = .ok answer) (field : String)
    (unlinked : answer.linked? field = none) (id : RecordId) :
    answer.root[field]? ≠ some (.link id) := by
  intro named
  obtain ⟨given, standing⟩ := Snapshot.exists_get?
    ((closed_of_ofResult read).2 field (.link id) named id List.mem_cons_self)
  rw [linked?_eq_some.mpr ⟨named, standing⟩] at unlinked
  cases unlinked

namespace Verdict

variable {place : Place} {answer : Normalized} {verdict other : Verdict}

/-- What the verdict on a place is when the records of an answer were merged over earlier ones. A
realm is shown at the places of realms only, and videos at their listing only. -/
structure Judges (place : Place) (answer : Normalized) (earlier : RecordId → Option Record)
    (verdict : Verdict) : Prop where
  dashboard : verdict = .dashboard ↔ place = .dashboard
  /-- The root field of the realm is no link, or links to something else. -/
  invalidPath : verdict = .invalidPath ↔ ∃ field, place.realmField? = some field ∧
    ((∀ id, answer.root[field]? ≠ some (.link id)) ∨
      ∃ id given, answer.linked? field = some (id, given) ∧ given.typeTag ≠ realmType)
  /-- The answer does not say that the user may edit the realm, or it has no user. -/
  notAuthorized : verdict = .notAuthorized ↔
    (∃ field id given, place.realmField? = some field ∧ answer.linked? field = some (id, given) ∧
      given.typeTag = realmType ∧ given.bool? Field.canCurrentUserEdit ≠ some true) ∨
    (∃ listing, place = .videos listing) ∧
      ∀ user, answer.root["currentUser"]? = some (.scalar user) → user = .null
  /-- The realm is shown as the answer has it, over what was stored of it. -/
  realm : ∀ view, verdict = .realm view ↔ ∃ field id given, place.realmField? = some field ∧
    answer.linked? field = some (id, given) ∧ given.typeTag = realmType ∧
    given.bool? Field.canCurrentUserEdit = some true ∧
    RealmView.ofRecord? id (given.laidOver (earlier id)) = some view
  /-- The videos are those that the answer has for the user. -/
  videos : ∀ connection, verdict = .videos connection ↔ (∃ listing, place = .videos listing) ∧
    ∃ user, answer.root["currentUser"]? = some (.scalar user) ∧ user ≠ .null ∧
      connection = user.get "myVideos"

/-- The verdicts are the same, or both show the realm that an answer links to and differ at most in
the fields that the answer does not have. -/
def Alike (place : Place) (answer : Normalized) (verdict other : Verdict) : Prop :=
  verdict = other ∨ ∃ field id given shown view, place.realmField? = some field ∧
    answer.linked? field = some (id, given) ∧ verdict = .realm shown ∧ other = .realm view ∧
    shown.AgreeOn given view

/-- Earlier records make no difference but for the fields that an answer leaves out. -/
theorem Judges.alike {earlier before : RecordId → Option Record} (flags : answer.Flags place)
    (judges : Judges place answer earlier verdict) (judged : Judges place answer before other) :
    Alike place answer verdict other := by
  cases verdict with
  | dashboard => exact .inl (judged.dashboard.mpr (judges.dashboard.mp rfl)).symm
  | invalidPath => exact .inl (judged.invalidPath.mpr (judges.invalidPath.mp rfl)).symm
  | notAuthorized => exact .inl (judged.notAuthorized.mpr (judges.notAuthorized.mp rfl)).symm
  | videos connection =>
      exact .inl ((judged.videos connection).mpr ((judges.videos connection).mp rfl)).symm
  | realm shown =>
      obtain ⟨field, id, given, named, linked, tag, may, read⟩ := (judges.realm shown).mp rfl
      have flagged := flags field named (id, given) linked tag
      obtain ⟨view, seen, -⟩ := RealmView.exists_ofRecord?_laidOver id tag flagged (before id)
      have same := (judged.realm view).mpr ⟨field, id, given, named, linked, tag, may, seen⟩
      exact .inr ⟨field, id, given, shown, view, named, linked, rfl, same,
        RealmView.agreeOn_of_ofRecord? flagged read seen⟩

section Reading

variable {earlier : RecordId → Option Record} {records : Records}

theorem judges_dashboard : Judges .dashboard answer earlier .dashboard := by
  constructor <;> simp [Place.realmField?]

theorem judges_onVideos (listing : Listing) :
    Judges (.videos listing) answer earlier (onVideos answer.root) := by
  have kept (user : Json) : answer.root["currentUser"]? = some (.scalar user) ↔
      (answer.root["currentUser"]?).bind FieldValue.json? = some user := by
    rcases answer.root["currentUser"]? with - | - | - | - <;> simp [FieldValue.json?]
  rw [onVideos]
  cases found : (answer.root["currentUser"]?).bind FieldValue.json? with
  | none => constructor <;> simp [Place.realmField?, kept, found]
  | some user =>
      cases user with
      | null => constructor <;> simp [Place.realmField?, kept, found]
      | _ => constructor <;> simp [Place.realmField?, kept, found, eq_comm]

/-- The realm that is read off the records is the one of the answer, over what was stored of it. -/
theorem judges_onRealm {field : String} (named : place.realmField? = some field)
    (flags : answer.Flags place)
    (absent : answer.linked? field = none → ∀ id, answer.root[field]? ≠ some (.link id))
    (read : linkedRealm? field answer.root records = (answer.linked? field).bind fun entry =>
      RealmView.ofRecord? entry.1 (entry.2.laidOver (earlier entry.1))) :
    Judges place answer earlier (onRealm field answer.root records) := by
  have inside : place ≠ .dashboard ∧ ∀ listing, place ≠ .videos listing := by
    cases place <;> simp [Place.realmField?] at named ⊢
  rw [onRealm, read]
  cases linked : answer.linked? field with
  | none =>
      have unlinked := absent linked
      constructor <;> simp [named, linked, inside, unlinked]
  | some entry =>
      obtain ⟨id, given⟩ := entry
      have rooted := (Normalized.linked?_eq_some.mp linked).1
      by_cases tag : given.typeTag = realmType
      · have flagged := flags field named (id, given) linked tag
        obtain ⟨view, shown, may⟩ :=
          RealmView.exists_ofRecord?_laidOver id tag flagged (earlier id)
        -- The rights that are read are those of the answer; a flag of another kind counts as none.
        cases flag : given.bool? Field.canCurrentUserEdit with
        | none => constructor <;> simp [named, linked, inside, rooted, tag, shown, may, flag]
        | some allowed =>
            cases allowed <;> constructor <;>
              simp [named, linked, inside, rooted, tag, shown, may, flag]
      · have none : RealmView.ofRecord? id (given.laidOver (earlier id)) = none :=
          RealmView.ofRecord?_of_ne (by simpa using tag)
        constructor <;> simp [named, linked, inside, tag, none]

end Reading

end Verdict

namespace Navigator

/-- Every token of a query that is held was given out. -/
def Counted (navigator : Navigator) (cache : Cache) : Prop :=
  ∀ slot ∈ navigator.held, ∀ token, slot.token? = some token → token ≤ cache.store.lastToken

variable {navigator : Navigator} {cache : Cache} {generation : Nat} {slot : Slot}
  {result : ApiResult Json} {answer : Normalized}

/-- Giving up tokens changes nothing but what is retained. -/
theorem store_releaseAll (cache : Cache) (slots : List Slot) :
    (releaseAll cache slots).store =
      { cache.store with retained := (releaseAll cache slots).store.retained } := by
  rw [releaseAll]
  induction slots.filterMap Slot.token? generalizing cache with
  | nil => rfl
  | cons token tokens induction => exact induction _

theorem getElem?_retained_releaseAll (cache : Cache) {slots : List Slot} {token : Nat}
    (kept : ∀ slot ∈ slots, slot.token? ≠ some token) :
    (releaseAll cache slots).store.retained[token]? = cache.store.retained[token]? := by
  have others : token ∉ slots.filterMap Slot.token? := by simpa using kept
  rw [releaseAll]
  generalize slots.filterMap Slot.token? = tokens at others ⊢
  induction tokens generalizing cache with
  | nil => rfl
  | cons first tokens induction =>
      have other : token ≠ first := List.ne_of_not_mem_cons others
      rw [List.foldl_cons, induction _ (List.not_mem_of_not_mem_cons others),
        Cache.Honours.getElem?_release, if_neg other]

/-- An answer that was awaited is merged and retained under the next token before anything is given
up. -/
theorem resolve_of_ok (awaited : navigator.awaiting? generation = some slot) (cache : Cache)
    (read : Normalized.ofResult result = .ok answer) :
    let retained := ((cache.applySnapshot answer.snapshot).retain answer.rootIds).2
    (navigator.resolve cache generation result).2.1.latest =
        some { slot with state := .ready answer.root (cache.store.lastToken + 1) } ∧
      (navigator.resolve cache generation result).2.2 =
        (releaseAll retained navigator.retained.toList).collectGarbage.2 := by
  intro retained
  have token : ((cache.applySnapshot answer.snapshot).retain answer.rootIds).1 =
      cache.store.lastToken + 1 := by
    rw [Cache.retain, Store.retain, (cache.wrote_applySnapshot answer.snapshot).lastToken_eq]
  rw [resolve, awaited]
  simp only [settle, read]
  rw [token]
  exact ⟨rfl, rfl⟩

/-- What the root fields of an answer link to is as the answer has it, merged over what was there.
It is retained before garbage is collected. -/
theorem view_resolve_of_root (awaited : navigator.awaiting? generation = some slot)
    (counted : navigator.Counted cache) (read : Normalized.ofResult result = .ok answer)
    {id : RecordId} (rooted : id ∈ answer.rootIds) :
    (navigator.resolve cache generation result).2.2.store.records.view id =
      cache.store.records.view.mergeSnapshot answer.snapshot id := by
  let merged := cache.applySnapshot answer.snapshot
  let released := releaseAll (merged.retain answer.rootIds).2 navigator.retained.toList
  have wrote := cache.wrote_applySnapshot answer.snapshot
  -- The token of the answer is not among those that are given up with the page before.
  have older : ∀ slot ∈ navigator.retained.toList,
      slot.token? ≠ some (cache.store.lastToken + 1) := by
    intro slot member given
    have bound := counted slot (List.mem_append_right _ member) _ given
    omega
  have live : released.store.retained[cache.store.lastToken + 1]? = some answer.rootIds := by
    rw [getElem?_retained_releaseAll _ older, Cache.Honours.getElem?_retain, wrote.lastToken_eq,
      if_pos rfl]
  have spared : released.collectGarbage.2.store.records[id]? = released.store.records[id]? :=
    Store.getElem?_collectGarbage_of_alive (.retained live rooted)
  have kept : released.store.records = merged.store.records := by
    rw [store_releaseAll]
    rfl
  rw [(resolve_of_ok awaited cache read).2, Records.view, spared, kept]
  exact congrFun wrote.view id

/-- What an answer links to is stored as the answer has it, over what was stored of it. -/
theorem exists_read_resolve_of_linked? (awaited : navigator.awaiting? generation = some slot)
    (counted : navigator.Counted cache) (read : Normalized.ofResult result = .ok answer)
    {field : String} {id : RecordId} {given : Record}
    (linked : answer.linked? field = some (id, given)) :
    ∃ record, (navigator.resolve cache generation result).2.2.read id = some record ∧
      record.Same (given.laidOver (cache.read id)) := by
  obtain ⟨named, standing⟩ := Normalized.linked?_eq_some.mp linked
  have rooted : id ∈ answer.rootIds :=
    FieldMap.mem_targets.mpr ⟨field, .link id, named, List.mem_cons_self⟩
  have alone : answer.snapshot.occurrences id = [given] := by
    have distinct := (Normalized.closed_of_ofResult read).1.distinct
    rw [Snapshot.occurrences_of_distinct distinct, ← Snapshot.get?, standing]
    rfl
  have shown := view_resolve_of_root awaited counted read rooted
  rw [View.mergeSnapshot_eq_pile, alone] at shown
  obtain ⟨record, stored, same⟩ := Option.map_eq_some_iff.mp shown
  exact ⟨record, stored, same.trans (given.unsignedZeros_laidOver _).symm⟩

theorem linkedRealm?_resolve (awaited : navigator.awaiting? generation = some slot)
    (counted : navigator.Counted cache) (read : Normalized.ofResult result = .ok answer)
    (field : String) :
    Verdict.linkedRealm? field answer.root
        (navigator.resolve cache generation result).2.2.store.records =
      (answer.linked? field).bind fun entry =>
        RealmView.ofRecord? entry.1 (entry.2.laidOver (cache.read entry.1)) := by
  rw [Verdict.linkedRealm?]
  cases linked : answer.linked? field with
  | none =>
      have unlinked := Normalized.root_ne_link_of_linked? read field linked
      generalize answer.root[field]? = value at unlinked ⊢
      rcases value with - | - | id | -
      case none => rfl
      case some.scalar => rfl
      case some.link => exact absurd rfl (unlinked id)
      case some.links => rfl
  | some entry =>
      obtain ⟨id, given⟩ := entry
      obtain ⟨record, stored, same⟩ :=
        exists_read_resolve_of_linked? awaited counted read linked
      have found : (navigator.resolve cache generation result).2.2.store.records[id]? =
          some record := stored
      have rooted := (Normalized.linked?_eq_some.mp linked).1
      simp only [rooted, FieldValue.link?, Option.bind_eq_bind, Option.bind_some, found]
      exact RealmView.ofRecord?_of_same id same

/-- The verdict that is read after an answer. -/
theorem judges_resolve (awaited : navigator.awaiting? generation = some slot)
    (counted : navigator.Counted cache) (read : Normalized.ofResult result = .ok answer)
    (flags : answer.Flags slot.query.place) :
    let resolved := navigator.resolve cache generation result
    resolved.2.1.current? = some (slot.query.place, answer.root) ∧
      Verdict.Judges slot.query.place answer cache.read
        (.of slot.query.place answer.root resolved.2.2.store.records) := by
  intro resolved
  constructor
  · rw [current?, (resolve_of_ok awaited cache read).1]
    rfl
  · have absent := Normalized.root_ne_link_of_linked? read
    have linked := linkedRealm?_resolve awaited counted read
    generalize slot.query.place = place at flags ⊢
    cases place with
    | dashboard => exact Verdict.judges_dashboard
    | videos listing => exact Verdict.judges_onVideos listing
    | addChild => exact Verdict.judges_onRealm rfl flags (absent _) (linked "parent")
    | realmSettings => exact Verdict.judges_onRealm rfl flags (absent _) (linked "realm")
    | realmContent => exact Verdict.judges_onRealm rfl flags (absent _) (linked "realm")

end Navigator

end RealmDesk
