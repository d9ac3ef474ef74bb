import RealmDesk.Proofs.Desk.Tended
import RealmDesk.Proofs.Record.Slots

/-!
# No dangling links

Throughout a session whatever a stored record links to is stored, and so it is in everything that
is published. An answer brings all records that it links to, and a garbage collection spares what a
remaining record links to. The deletion of a new block is the delicate case: it may be deleted
because nothing else lists it, which is the order of the pending ids.
-/

namespace RealmDesk

/-- Whatever a record links to is one of the records. -/
def Records.Closed (records : Records) : Prop :=
  ∀ (id : RecordId) (record : Record) (target : RecordId), records[id]? = some record →
    target ∈ record.targets → target ∈ records

/-- Fields that link to nothing. -/
def FieldMap.Unlinked (fields : FieldMap) : Prop :=
  ∀ (name : String) (value : FieldValue), fields[name]? = some value → value.targets = []

/-- Whatever a record links to is in the view. -/
def View.Closed (view : View) : Prop :=
  ∀ source field target, view.LinksTo source field target → (view target).isSome

theorem Records.closed_iff_view {records : Records} : records.Closed ↔ records.view.Closed := by
  constructor
  · rintro closed source field target ⟨record, found, linked⟩
    obtain ⟨stored, standing, rfl⟩ := Option.map_eq_some_iff.mp found
    exact isSome_view.mpr (closed source stored target standing
      (Record.mem_targets.mpr ⟨field, Record.linksTo_unsignedZeros.mp linked⟩))
  · intro closed id record target found member
    obtain ⟨field, linked⟩ := Record.mem_targets.mp member
    exact isSome_view.mp (closed id field target
      ⟨_, by rw [view, found]; rfl, Record.linksTo_unsignedZeros.mpr linked⟩)

theorem BlockKind.unlinked_defaultFields (kind : BlockKind) : kind.defaultFields.Unlinked := by
  intro name value found
  cases kind <;> have member := FieldMap.mem_of_getElem?_ofList found <;>
    simp only [List.mem_cons, Prod.mk.injEq, List.not_mem_nil, or_false] at member <;> aesop

theorem Editor.not_linksTo_newRecord {kind : BlockKind} {defaults : FieldMap}
    (unlinked : defaults.Unlinked) (field : String) (target : RecordId) :
    ¬(newRecord kind defaults).unsignedZeros.LinksTo field target := by
  intro linked
  rw [newRecord, Record.unsignedZeros_update] at linked
  rcases Record.linksTo_set linked with ⟨-, member⟩ | ⟨-, linked⟩
  · cases member
  · obtain ⟨value, named, member⟩ := Record.linksTo_unsignedZeros.mp linked
    rw [Record.get?, FieldMap.getElem?_merge, Option.or_eq_some_iff] at named
    have none : value.targets = [] := by
      rcases named with named | ⟨-, named⟩
      · exact unlinked field value named
      · exact kind.unlinked_defaultFields field value named
    rw [none] at member
    cases member

theorem BlockKind.typeTag_ne_realmType (kind : BlockKind) : kind.typeTag ≠ realmType := by
  cases kind <;> decide

namespace Desk

/-- What keeps a desk free of dangling links. -/
structure Integral (desk : Desk) : Prop where
  /-- The pending ids are in order for every saved realm. -/
  tended : ∀ text, desk.Tended (.persisted text)
  /-- There is no dangling link. -/
  closed : desk.view.Closed
  /-- Only the blocks of saved records link to pending ids. -/
  saved : ∀ source field number, desk.view.LinksTo source field (.pending number) →
    field = Field.blocks ∧ source.isPending = false
  /-- They do so in lists. -/
  listed : desk.view.Listed
  /-- No new record is a realm. -/
  typed : ∀ number record, desk.view (.pending number) = some record →
    record.typeTag ≠ realmType
  /-- Nothing that was published has a dangling link. -/
  published : ∀ publication ∈ desk.cache.journal, publication.records.Closed

namespace Integral

variable {before after : Desk}

theorem start (table : RouteTable) : (start table).Integral := by
  have absent (id : RecordId) : (Desk.start table).view id = none := rfl
  refine ⟨fun text => tended_start table _, fun source field target linked => ?_,
    fun source field number linked => ?_, fun source number linked => ?_,
    fun number record found => ?_, nofun⟩
  · simpa [absent] using linked.isSome
  · simpa [absent] using linked.isSome
  · simpa [absent] using linked.isSome
  · simp [absent] at found

/-- A write that takes no pending id anywhere keeps the invariant if it leaves no dangling link. -/
theorem of_recedes (integral : before.Integral) (tended : ∀ text, after.Tended (.persisted text))
    {view : View} {lastPending : Nat} (wrote : before.cache.Wrote after.cache view lastPending)
    (recedes : before.view.Recedes view) (closed : view.Closed)
    (old : ∀ source field number, view.LinksTo source field (.pending number) →
      before.view.LinksTo source field (.pending number)) : after.Integral := by
  have shown : after.view = view := wrote.view
  refine ⟨tended, shown ▸ closed, ?_, shown ▸ recedes.listed integral.listed, ?_, ?_⟩
  · intro source field number linked
    exact integral.saved source field number (old source field number (shown ▸ linked))
  · intro number record found
    obtain ⟨earlier, found, same⟩ := recedes.stored number record (shown ▸ found)
    exact same ▸ integral.typed number earlier found
  · intro publication member
    rcases wrote.published publication member with earlier | same
    · exact integral.published publication earlier
    · rw [same, Records.closed_iff_view, wrote.view]
      exact closed

theorem marked (integral : before.Integral) (tended : ∀ text, after.Tended (.persisted text))
    {block : RecordId} {on : Bool} (wrote : before.cache.Wrote after.cache
      (before.view.mark block on) before.cache.store.lastPending) : after.Integral := by
  have old {source field target}
      (linked : (before.view.mark block on).LinksTo source field target) :
      before.view.LinksTo source field target := by
    rcases View.linksTo_set linked with ⟨-, -, member⟩ | ⟨old, -⟩
    · cases member
    · exact old
  refine integral.of_recedes tended wrote (.mark _ block on)
    (fun source field target linked => ?_) fun source field number linked => old linked
  rw [View.mark, View.isSome_set]
  exact integral.closed source field target (old linked)

theorem removed (integral : before.Integral) (tended : ∀ text, after.Tended (.persisted text))
    {block : RecordId} {realms : List RecordId} (pending : block.isPending)
    (named : ∀ id, before.view.LinksTo id Field.blocks block → id ∈ realms)
    (wrote : before.cache.Wrote after.cache (before.view.remove block realms)
      before.cache.store.lastPending) : after.Integral := by
  refine integral.of_recedes tended wrote (.remove _ block realms)
    (fun source field target linked => ?_)
    fun source field number linked => (View.linksTo_remove named linked).1
  obtain ⟨old, -, spared⟩ := View.linksTo_remove named linked
  refine (View.isSome_remove ..).mpr ⟨?_, integral.closed source field target old⟩
  rintro rfl
  obtain ⟨number, rfl⟩ := RecordId.exists_eq_pending pending
  exact spared (integral.saved source field number old).1 rfl

theorem merged (integral : before.Integral) (tended : ∀ text, after.Tended (.persisted text))
    {snapshot : Snapshot} (closed : snapshot.Closed)
    (wrote : before.cache.Wrote after.cache (before.view.mergeSnapshot snapshot)
      before.cache.store.lastPending) : after.Integral := by
  refine integral.of_recedes tended wrote (.mergeSnapshot closed.toSaved _)
    (fun source field target linked => ?_) fun source field number linked => ?_
  · rw [View.isSome_mergeSnapshot]
    rcases View.linksTo_mergeSnapshot linked with ⟨entry, member, -, linked⟩ | old
    · exact .inr (closed.linked entry member field target linked)
    · exact .inl (integral.closed source field target old)
  · rcases View.linksTo_mergeSnapshot linked with ⟨entry, member, -, linked⟩ | old
    · cases closed.toSaved.targets entry member field _ linked
    · exact old

theorem adopted (integral : before.Integral) (tended : ∀ text, after.Tended (.persisted text))
    {request : SaveRequest} {realm : String} {index : Nat} {input : BlockInput} {saved : RecordId}
    {snapshot : Snapshot} (sent : before.Sent request)
    (asked : request.mutation = .create realm index input) (closed : snapshot.Closed)
    (member : saved ∈ snapshot.entries.map Prod.fst)
    (wrote : before.cache.Wrote after.cache
      (before.view.adopt request.block saved (.persisted realm) snapshot)
      before.cache.store.lastPending) : after.Integral := by
  obtain ⟨number, block, -, -⟩ :=
    (integral.tended realm).asked request realm index input sent asked
  have persisted := closed.isPending_eq_false member
  have once := (integral.tended realm).once number
  rw [← block] at once
  have different : saved ≠ request.block := by
    rw [block]
    rintro rfl
    cases persisted
  -- Another realm that lists the block would be the one that the request names.
  have spared {source field target}
      (linked : before.view.LinksTo source field target)
      (other : ¬(source = .persisted realm ∧ field = Field.blocks)) : target ≠ request.block := by
    rintro rfl
    rw [block] at linked
    obtain ⟨rfl, _⟩ := integral.saved source field number linked
    cases source with
    | pending => contradiction
    | persisted text =>
        obtain ⟨-, -, -, named⟩ :=
          (integral.tended text).asked request realm index input sent asked
        rw [block] at named
        exact other ⟨named (integral.listed _ number linked), rfl⟩
  refine integral.of_recedes tended wrote (.adopt closed.toSaved _ _ _ persisted)
    (fun source field target linked => ?_) fun source field number linked => ?_
  · rw [View.isSome_adopt]
    rcases View.linksTo_adopt linked with
      ⟨rfl, rfl, listed⟩ | ⟨old, -, other⟩ | ⟨entry, inside, -, linked⟩
    · rcases mem_of_mem_replace once different listed with rfl | ⟨other, old⟩
      · exact .inr member
      · exact .inl ⟨other, integral.closed _ _ target (View.linksTo_of_mem_blocks old)⟩
    · exact .inl ⟨spared old other, integral.closed source field target old⟩
    · exact .inr (closed.linked entry inside field target linked)
  · rcases View.linksTo_adopt linked with
      ⟨rfl, rfl, listed⟩ | ⟨old, -, -⟩ | ⟨entry, inside, -, linked⟩
    · rcases mem_of_mem_replace once different listed with rfl | ⟨-, old⟩
      · cases persisted
      · exact View.linksTo_of_mem_blocks old
    · exact old
    · cases closed.toSaved.targets entry inside field _ linked

theorem placed (integral : before.Integral) (tended : ∀ text, after.Tended (.persisted text))
    {realm : RecordId} {index : Nat} {kind : BlockKind} {defaults : FieldMap}
    (unlinked : defaults.Unlinked)
    (typed : ∃ record, before.view realm = some record ∧ record.typeTag = realmType)
    (within : index ≤ (before.view.blocks realm).length)
    (wrote : before.cache.Wrote after.cache
      (before.view.place realm index (.pending (before.cache.store.lastPending + 1))
        (Editor.newRecord kind defaults).unsignedZeros) (before.cache.store.lastPending + 1)) :
    after.Integral := by
  generalize identity : RecordId.pending (before.cache.store.lastPending + 1) = block at wrote
  have shown : after.view = _ := wrote.view
  obtain ⟨found, present, isRealm⟩ := typed
  have stored : (before.view realm).isSome := by simp [present]
  have persisted : realm.isPending = false := by
    cases realm with
    | persisted => rfl
    | pending number => exact absurd isRealm (integral.typed number found present)
  have links {source field target} (linked : after.view.LinksTo source field target) :
      (source = realm ∧ field = Field.blocks ∧
          (target = block ∨ target ∈ before.view.blocks realm)) ∨
        (source ≠ block ∧ before.view.LinksTo source field target) := by
    rw [shown] at linked
    rcases View.linksTo_place linked with own | ⟨-, new⟩ | old
    · exact .inl own
    · exact absurd new (Editor.not_linksTo_newRecord unlinked field target)
    · exact .inr old
  have closed : after.view.Closed := by
    intro source field target linked
    rw [shown, View.isSome_place]
    rcases links linked with ⟨-, -, same | listed⟩ | ⟨-, old⟩
    · exact .inl same
    · exact .inr (integral.closed _ _ target (View.linksTo_of_mem_blocks listed))
    · exact .inr (integral.closed source field target old)
  refine ⟨tended, closed, fun source field number linked => ?_, fun source number linked => ?_,
    fun number record found => ?_, fun publication member => ?_⟩
  · rcases links linked with ⟨rfl, same, -⟩ | ⟨-, old⟩
    · exact ⟨same, persisted⟩
    · exact integral.saved source field number old
  · rw [shown]
    rcases links linked with ⟨rfl, -, own⟩ | ⟨different, old⟩
    · rw [View.blocks_place_self stored]
      exact (List.mem_insertIdx within).mpr own
    · exact (View.mem_blocks_place stored within different _).mpr
        (.inr (integral.listed source number old))
  · rw [shown] at found
    obtain ⟨old, found, same⟩ := View.set_eq_some found
    rw [← same]
    by_cases new : .pending number = block
    · rw [new, Function.update_self] at found
      obtain rfl := Option.some.inj found
      rw [Editor.newRecord, Record.unsignedZeros_update]
      exact kind.typeTag_ne_realmType
    · rw [Function.update_of_ne new] at found
      exact integral.typed number old found
  · rcases wrote.published publication member with earlier | same
    · exact integral.published publication earlier
    · rw [same, Records.closed_iff_view]
      exact closed

theorem tidied (integral : before.Integral) (tended : ∀ text, after.Tended (.persisted text))
    (tidied : before.cache.Tidied after.cache) : after.Integral := by
  have recedes := View.Recedes.of_tidied tidied
  refine ⟨tended, fun source field target linked => ?_, fun source field number linked => ?_,
    recedes.listed integral.listed, fun number record found => ?_, ?_⟩
  · exact tidied.isSome_of_linksTo linked
      (integral.closed source field target (tidied.linksTo linked))
  · exact integral.saved source field number (tidied.linksTo linked)
  · obtain ⟨old, found, same⟩ := recedes.stored number record found
    exact same ▸ integral.typed number old found
  · rw [tidied.journal]
    exact integral.published

/-- Every turn keeps a desk free of dangling links. -/
theorem turn (integral : before.Integral) (turn : Turn FieldMap.Unlinked before after) :
    after.Integral := by
  have tended (text : String) : after.Tended (.persisted text) :=
    (integral.tended text).turn (fun _ _ => nofun) turn
  cases turn with
  | tidied tidied fewer => exact integral.tidied tended tidied
  | counted lastPending grown wrote fewer =>
      exact integral.of_recedes tended wrote (.refl _) integral.closed fun _ _ _ linked => linked
  | placed realm index kind defaults unlinked fresh typed within wrote fewer =>
      exact integral.placed tended unlinked typed within wrote
  | marked block on wrote fewer => exact integral.marked tended wrote
  | removed block realms pending named wrote fewer =>
      exact integral.removed tended pending named wrote
  | merged snapshot closed wrote fewer => exact integral.merged tended closed wrote
  | adopted request realm index input saved snapshot sent asked closed member present wrote fewer =>
      exact integral.adopted tended sent asked closed member wrote
  | sent request same asked more =>
      have shown : after.view = before.view := by rw [view, same]
      exact ⟨tended, shown ▸ integral.closed, shown ▸ integral.saved, shown ▸ integral.listed,
        shown ▸ integral.typed, same ▸ integral.published⟩

theorem turns (integral : before.Integral) (turns : Turns FieldMap.Unlinked before after) :
    after.Integral := by
  induction turns with
  | refl => exact integral
  | tail _ next induction => exact induction.turn next

end Integral

/-- Whatever happens in a session, no stored record and no record that was ever published holds a
dangling link. -/
theorem closed_run (table : RouteTable) {events : List Event}
    (session : ∀ event ∈ events, event.InSession FieldMap.Unlinked) :
    ((start table).run events).cache.store.records.Closed ∧
      ∀ publication ∈ ((start table).run events).cache.journal, publication.records.Closed := by
  have integral := (Integral.start table).turns (turns_run session (start table))
  exact ⟨Records.closed_iff_view.mpr integral.closed, integral.published⟩

/-- A session in which a page is loaded and a new block is saved on it. -/
theorem closed_run_saving :
    let block : Json := .obj [("id", .str "b"), ("__typename", .str "TitleBlock")]
    let realm (blocks : List Json) : Json :=
      .obj [("id", .str "r"), ("__typename", .str "Realm"), ("blocks", .arr blocks)]
    let events : List Event := [.navigate (Place.realmContent "/").url,
      .resolve 1 (.ok (.obj [("realm", realm [])])), .insert (.persisted "r") 0 .title ∅,
      .submit (.pending 1) (.title "x"),
      .complete 1 (.ok (.obj [("addTitleBlock", realm [block])]))]
    let desk := (start .standard).run events
    (∀ event ∈ events, event.InSession FieldMap.Unlinked) ∧
      (desk.cache.store.read (.persisted "r")).map (·.links Field.blocks) =
        some [.persisted "b"] ∧
      desk.cache.store.records.Closed ∧
      ∀ publication ∈ desk.cache.journal, publication.records.Closed := by
  intro block realm events desk
  have session : ∀ event ∈ events, event.InSession FieldMap.Unlinked := by
    simp [events, Event.InSession, FieldMap.Unlinked]
  exact ⟨session, by decide +kernel, closed_run .standard session⟩

end Desk

end RealmDesk
