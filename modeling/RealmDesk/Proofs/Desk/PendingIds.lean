import RealmDesk.Proofs.Desk.BlockList
import RealmDesk.Proofs.Desk.Handling
import RealmDesk.Proofs.Desk.Links

/-!
# Pending ids in use

The last number that was given out bounds every pending id that is in use anywhere: in a record, in
a link, in a request in flight, or in the hands of whoever inserted the block. So the next number is
new to all of them, and an insertion cannot fail for the lack of an id.
-/

namespace RealmDesk

theorem count_flatMap_le_one {α : Type} {items : List α} {lists : α → List RecordId}
    {id : RecordId} (once : ∀ item ∈ items, (lists item).count id ≤ 1)
    (alone : items.Pairwise fun left right => id ∈ lists left → id ∉ lists right) :
    (items.flatMap lists).count id ≤ 1 := by
  induction items with
  | nil => simp
  | cons item items induction =>
      obtain ⟨apart, alone⟩ := List.pairwise_cons.mp alone
      rw [List.flatMap_cons, List.count_append]
      by_cases member : id ∈ lists item
      · have later : id ∉ items.flatMap lists := by
          intro later
          obtain ⟨other, inside, listed⟩ := List.mem_flatMap.mp later
          exact apart other inside member listed
        rw [List.count_eq_zero.mpr later]
        exact once item List.mem_cons_self
      · rw [List.count_eq_zero.mpr member, Nat.zero_add]
        exact induction (fun other inside => once other (List.mem_cons_of_mem _ inside)) alone

theorem Dispatcher.exists_position {store : Store} {block realm : RecordId}
    (linked : store.records.view.LinksTo realm Field.blocks block)
    (listed : ∀ id, store.records.view.LinksTo id Field.blocks block →
      block ∈ store.records.view.blocks id) :
    ∃ found index, position store block = .ok (found, index) := by
  have member : realm ∈ store.referrers block Field.blocks := Store.mem_referrers.mpr linked
  cases first : store.referrers block Field.blocks with
  | nil => simp [first] at member
  | cons found others =>
      have linked : store.records.view.LinksTo found Field.blocks block :=
        Store.mem_referrers.mp (by simp [first])
      have inside := listed found linked
      obtain ⟨record, stored⟩ : ∃ record, store.read found = some record := by
        have present := Records.isSome_view.mp linked.isSome
        exact Option.isSome_iff_exists.mp (Std.ExtTreeMap.mem_iff_isSome_getElem?.mp present)
      have same : store.records.view.blocks found = record.links Field.blocks := by
        simp [View.blocks, Records.view, show store.records[found]? = some record from stored]
      rw [same] at inside
      exact ⟨found, exists_position_iff.mpr ⟨congrArg List.head? first, record, stored, inside⟩⟩

namespace Desk

variable {allowed : FieldMap → Prop} {before after desk : Desk}

/-- A turn gives out the next pending id, or brings no pending id into a record or a list. -/
theorem Turn.recedes_or_placed (turn : Turn allowed before after) :
    (before.view.Recedes after.view ∧
      before.cache.store.lastPending ≤ after.cache.store.lastPending) ∨
    ∃ realm index record,
      after.view = before.view.place realm index
        (.pending (before.cache.store.lastPending + 1)) record ∧
      after.cache.store.lastPending = before.cache.store.lastPending + 1 := by
  cases turn with
  | tidied tidied =>
      exact .inl ⟨.of_tidied tidied, Nat.le_of_eq tidied.lastPending.symm⟩
  | counted lastPending grown wrote =>
      refine .inl ⟨?_, wrote.lastPending_eq ▸ grown⟩
      rw [show after.view = _ from wrote.view]
      exact .refl _
  | placed realm index kind defaults plain fresh typed within wrote =>
      exact .inr ⟨realm, index, _, wrote.view, wrote.lastPending_eq⟩
  | marked block on wrote =>
      refine .inl ⟨?_, Nat.le_of_eq wrote.lastPending_eq.symm⟩
      rw [show after.view = _ from wrote.view]
      exact .mark _ block on
  | removed block realms pending named wrote =>
      refine .inl ⟨?_, Nat.le_of_eq wrote.lastPending_eq.symm⟩
      rw [show after.view = _ from wrote.view]
      exact .remove _ block realms
  | merged snapshot closed wrote =>
      refine .inl ⟨?_, Nat.le_of_eq wrote.lastPending_eq.symm⟩
      rw [show after.view = _ from wrote.view]
      exact .mergeSnapshot closed.toSaved _
  | adopted request text index input saved snapshot sent asked closed member present wrote =>
      refine .inl ⟨?_, Nat.le_of_eq wrote.lastPending_eq.symm⟩
      rw [show after.view = _ from wrote.view]
      exact .adopt closed.toSaved _ _ _ (closed.isPending_eq_false member)
  | sent request same =>
      refine .inl ⟨?_, Nat.le_of_eq (by rw [same])⟩
      rw [show after.view = before.view by rw [view, same]]
      exact .refl _

/-- A session gives out pending ids only upwards, and stores new records under those only. -/
theorem Turns.counted (turns : Turns allowed before after) :
    before.cache.store.lastPending ≤ after.cache.store.lastPending ∧
      ∀ number, (after.view (.pending number)).isSome →
        (before.view (.pending number)).isSome ∨ before.cache.store.lastPending < number := by
  induction turns with
  | refl => exact ⟨Nat.le_refl _, fun number present => .inl present⟩
  | @tail middle after _ next induction =>
      obtain ⟨grown, stored⟩ := induction
      rcases next.recedes_or_placed with ⟨recedes, more⟩ | ⟨realm, index, record, shown, more⟩
      · exact ⟨Nat.le_trans grown more, fun number present =>
          stored number (recedes.isSome present)⟩
      · refine ⟨by omega, fun number present => ?_⟩
        rw [shown] at present
        rcases (View.isSome_place ..).mp present with same | old
        · have last := RecordId.pending.inj same
          exact .inr (by omega)
        · exact stored number old

theorem sent_apart (event : Event) {ticket : Nat} {request : SaveRequest}
    (standing : (desk.step event).2.dispatcher.inFlight[ticket]? = some request) :
    desk.dispatcher.inFlight[ticket]? = some request ∨ (desk.view request.block).isSome := by
  cases event with
  | dispatch block input =>
      cases dispatched : desk.dispatcher.dispatch desk.cache.store block input with
      | error error =>
          simp only [step, dispatched] at standing
          exact .inl standing
      | ok handed =>
          simp only [step, dispatched] at standing
          obtain ⟨-, sameBlock, -, -, stored, -⟩ := Dispatcher.dispatch_of_ok dispatched
          rcases (asked_of_dispatch dispatched).2 ticket request standing with ⟨-, rfl⟩ | old
          · exact .inr (sameBlock ▸ stored)
          · exact .inl old
  | finish number result =>
      cases completed : desk.dispatcher.complete desk.cache number result with
      | error error =>
          simp only [step, completed] at standing
          exact .inl standing
      | ok parts =>
          obtain ⟨outcome, dispatcher, cache⟩ := parts
          simp only [step, completed] at standing
          obtain ⟨-, -, rfl, -⟩ := Dispatcher.complete_of_ok completed
          exact .inl (sent_of_erase standing)
  | updateForm block values =>
      simp only [step] at standing
      split at standing <;> exact .inl standing
  | complete number result =>
      simp only [step] at standing
      split at standing <;> exact .inl standing
  | _ => exact .inl standing

/-- A request in flight was in flight before, or is for a block that is stored. -/
theorem sent_or_stored (event : Event) {request : SaveRequest}
    (sent : (desk.step event).2.Sent request) :
    desk.Sent request ∨ (desk.view request.block).isSome := by
  obtain ⟨ticket, standing | standing⟩ := sent
  · have handled := desk.handled event
    generalize (desk.step event).1 = outcome at handled
    generalize (desk.step event).2.editor = editor at handled standing
    cases handled with
    | sent block values input asked dispatcher accepted dispatched =>
        obtain ⟨-, sameBlock, -, -, stored, -⟩ := Dispatcher.dispatch_of_ok dispatched
        rcases (asked_of_dispatch dispatched).2 ticket request standing with ⟨-, rfl⟩ | old
        · exact .inr (sameBlock ▸ stored)
        · exact .inl ⟨ticket, .inl old⟩
    | saved => exact .inl ⟨ticket, .inl (sent_of_erase standing)⟩
    | failed =>
        rw [Editor.dispatcher_failForm] at standing
        exact .inl ⟨ticket, .inl (sent_of_erase standing)⟩
    | _ => exact .inl ⟨ticket, .inl standing⟩
  · exact (sent_apart event standing).imp (fun old => ⟨ticket, .inr old⟩) id

/-- The last pending id that was given out bounds those that are in use. -/
structure Numbered (desk : Desk) (history : List (Event × Outcome)) : Prop where
  /-- The links are in order. -/
  integral : desk.Integral
  /-- Numbers start at one. -/
  positive : ∀ number, (desk.view (.pending number)).isSome → 1 ≤ number
  /-- The blocks that were inserted have ids that were given out. -/
  returned : ∀ event block, (event, .inserted (.ok block)) ∈ history →
    ∃ number ≤ desk.cache.store.lastPending, block = .pending number
  /-- So have the blocks of the requests in flight. -/
  asked : ∀ request number, desk.Sent request → request.block = .pending number →
    number ≤ desk.cache.store.lastPending

theorem inserted_of_step {event : Event} {block : RecordId}
    (inserted : (desk.step event).1 = .inserted (.ok block)) :
    block = .pending (desk.cache.store.lastPending + 1) ∧
      (desk.step event).2.cache.store.lastPending = desk.cache.store.lastPending + 1 := by
  cases event with
  | insert realm index kind defaults =>
      rcases desk.editor.insert_cases desk.cache realm index kind defaults with
        ⟨-, ⟨done, -, -, -, wrote⟩ | ⟨error, lastPending, failed, -, -⟩⟩
      · simp only [step, done, Outcome.inserted.injEq, Except.ok.injEq] at inserted
        exact ⟨inserted.symm, wrote.lastPending_eq⟩
      · simp only [step, failed, Outcome.inserted.injEq] at inserted
        cases inserted
  | updateForm | complete | dispatch | finish =>
      simp only [step] at inserted
      split at inserted <;> cases inserted
  | _ => cases inserted

namespace Numbered

theorem start (table : RouteTable) : (start table).Numbered [] where
  integral := .start table
  positive number present := by simp [view, Records.view, Desk.start] at present
  returned := nofun
  asked request number := by rintro ⟨ticket, sent | sent⟩ <;> simp [Desk.start] at sent

theorem step {history : List (Event × Outcome)} (numbered : desk.Numbered history)
    {event : Event} (session : event.InSession FieldMap.Unlinked) :
    (desk.step event).2.Numbered (history ++ [(event, (desk.step event).1)]) := by
  have turns := turns_step session desk
  obtain ⟨grown, stored⟩ := turns.counted
  refine ⟨numbered.integral.turns turns, fun number present => ?_,
    fun earlier block member => ?_, fun request number sent own => ?_⟩
  · rcases stored number present with old | new
    · exact numbered.positive number old
    · omega
  · rw [List.mem_append, List.mem_singleton, Prod.mk.injEq] at member
    rcases member with old | ⟨-, inserted⟩
    · obtain ⟨number, bound, rfl⟩ := numbered.returned earlier block old
      exact ⟨number, Nat.le_trans bound grown, rfl⟩
    · obtain ⟨rfl, last⟩ := inserted_of_step inserted.symm
      exact ⟨_, Nat.le_of_eq last.symm, rfl⟩
  · refine Nat.le_trans ?_ grown
    rcases sent_or_stored event sent with old | present
    · exact numbered.asked request number old own
    · exact (numbered.integral.tended "").stored number (own ▸ present)

theorem run {history : List (Event × Outcome)} (numbered : desk.Numbered history)
    {events : List Event} (session : ∀ event ∈ events, event.InSession FieldMap.Unlinked) :
    (desk.run events).Numbered (history ++ desk.trace events) := by
  induction events generalizing desk history with
  | nil => simpa [trace, Desk.run] using numbered
  | cons event events induction =>
      have next := induction (numbered.step (session event List.mem_cons_self))
        fun later member => session later (List.mem_cons_of_mem _ member)
      rwa [List.append_assoc] at next

theorem bounded {history : List (Event × Outcome)} (numbered : desk.Numbered history)
    {id : RecordId} {record : Record} {number : Nat}
    (found : desk.cache.store.read id = some record)
    (used : id = .pending number ∨ .pending number ∈ record.targets) :
    1 ≤ number ∧ number ≤ desk.cache.store.lastPending := by
  obtain ⟨shown, -⟩ := blocks_eq_links found
  have present : (desk.view (.pending number)).isSome := by
    rcases used with rfl | member
    · simp [shown]
    · obtain ⟨field, linked⟩ := Record.mem_targets.mp member
      exact numbered.integral.closed id field _ ⟨_, shown, Record.linksTo_unsignedZeros.mpr linked⟩
  exact ⟨numbered.positive number present, (numbered.integral.tended "").stored number present⟩

/-- The next pending id is new to the records, to what they link to, to the requests in flight, and
to the blocks that were inserted before. -/
theorem unused {history : List (Event × Outcome)} (numbered : desk.Numbered history) :
    let next := RecordId.pending (desk.cache.store.lastPending + 1)
    desk.cache.store.read next = none ∧
      (∀ id record, desk.cache.store.read id = some record → next ∉ record.targets) ∧
      (∀ request, desk.Sent request → request.block ≠ next) ∧
      ∀ event, (event, .inserted (.ok next)) ∉ history := by
  intro next
  refine ⟨?_, fun id record found member => ?_, fun request sent same => ?_,
    fun event member => ?_⟩
  · rw [Option.eq_none_iff_forall_ne_some]
    intro record found
    have bound := (numbered.bounded found (.inl rfl)).2
    omega
  · have bound := (numbered.bounded found (.inr member)).2
    omega
  · have bound := numbered.asked request _ sent same
    omega
  · obtain ⟨number, bound, same⟩ := numbered.returned event next member
    have last := RecordId.pending.inj same
    omega

end Numbered

/-! ## Lists -/

namespace Integral

/-- One record at most lists a new block, and it is a saved one. -/
theorem lists_once (integral : desk.Integral) {first second : RecordId} {number : Nat}
    (one : .pending number ∈ desk.view.blocks first)
    (two : .pending number ∈ desk.view.blocks second) :
    first = second ∧ first.isPending = false := by
  have persisted (id : RecordId) (listed : .pending number ∈ desk.view.blocks id) :
      id.isPending = false :=
    (integral.saved id Field.blocks number (View.linksTo_of_mem_blocks listed)).2
  have saved := persisted first one
  cases first with
  | pending => cases saved
  | persisted text =>
      cases second with
      | pending => cases persisted _ two
      | persisted other => exact ⟨(integral.tended text).alone number other one two, saved⟩

/-- A new block stands once at most in all lists together. -/
theorem count_blocks (integral : desk.Integral) (number : Nat) :
    (desk.cache.store.records.toList.flatMap
      fun entry => entry.2.links Field.blocks).count (.pending number) ≤ 1 := by
  have listed {entry : RecordId × Record} (member : entry ∈ desk.cache.store.records.toList) :
      entry.2.links Field.blocks = desk.view.blocks entry.1 :=
    (blocks_eq_links (Std.ExtTreeMap.mem_toList_iff_getElem?_eq_some.mp member)).2.symm
  refine count_flatMap_le_one (fun entry member => ?_) ?_
  · rw [listed member]
    by_cases inside : .pending number ∈ desk.view.blocks entry.1
    · obtain ⟨-, persisted⟩ := integral.lists_once inside inside
      cases same : entry.1 with
      | pending => simp [same, RecordId.isPending] at persisted
      | persisted text => exact (integral.tended text).once number
    · rw [List.count_eq_zero.mpr inside]
      exact Nat.zero_le 1
  · refine (pairwise_ne_toList desk.cache.store.records).imp_of_mem
      fun one two different inside other => different ?_
    rw [listed one] at inside
    rw [listed two] at other
    exact (integral.lists_once inside other).1

/-- A new block that is listed has a position: its place among the saved blocks of the one record
that lists it. -/
theorem position_of_listed (integral : desk.Integral) {realm : RecordId} {number : Nat}
    (listed : .pending number ∈ desk.view.blocks realm) :
    ∃ front back, desk.view.blocks realm = front ++ .pending number :: back ∧
      Dispatcher.position desk.cache.store (.pending number) =
        .ok (realm, (front.filter (!·.isPending)).length) := by
  obtain ⟨found, index, located⟩ := Dispatcher.exists_position
    (View.linksTo_of_mem_blocks listed) fun id linked => integral.listed id number linked
  obtain ⟨front, back, split, -, rfl⟩ := Dispatcher.position_of_ok located
  have inside : .pending number ∈ desk.view.blocks found := by
    rw [show desk.view.blocks found = _ from split]
    simp
  obtain ⟨rfl, -⟩ := integral.lists_once inside listed
  exact ⟨front, back, split, located⟩

end Integral

/-- Throughout a session pending ids are in order. Those that records have or link to were given
out, each stands in one place at most of all lists of blocks, and none is the id of a realm. So a
new block goes in wherever a realm has room for it, under an id that is new to everything, and a new
block that is listed has a position in the one saved record that lists it. -/
theorem pending_ids_in_order (table : RouteTable) {events : List Event}
    (session : ∀ event ∈ events, event.InSession FieldMap.Unlinked) :
    let desk := (start table).run events
    let store := desk.cache.store
    (∀ id record number, store.read id = some record →
        id = .pending number ∨ .pending number ∈ record.targets →
          1 ≤ number ∧ number ≤ store.lastPending) ∧
      (∀ number, (store.records.toList.flatMap
        fun entry => entry.2.links Field.blocks).count (.pending number) ≤ 1) ∧
      (∀ number record, store.read (.pending number) = some record →
        record.typeTag ≠ realmType) ∧
      (∀ realm record index kind defaults, store.read realm = some record →
        record.typeTag = realmType → index ≤ (record.links Field.blocks).length →
          ∃ block, (desk.step (.insert realm index kind defaults)).1 = .inserted (.ok block) ∧
            store.read block = none ∧
            (∀ id other, store.read id = some other → block ∉ other.targets) ∧
            (∀ request, desk.Sent request → request.block ≠ block) ∧
            ∀ event, (event, .inserted (.ok block)) ∉ (start table).trace events) ∧
      ∀ realm record number, store.read realm = some record →
        .pending number ∈ record.links Field.blocks →
          realm.isPending = false ∧
          (∀ id other, store.read id = some other →
            .pending number ∈ other.links Field.blocks → id = realm) ∧
          ∃ front back, record.links Field.blocks = front ++ .pending number :: back ∧
            Dispatcher.position store (.pending number) =
              .ok (realm, (front.filter (!·.isPending)).length) := by
  intro desk store
  have numbered : desk.Numbered ((start table).trace events) := (Numbered.start table).run session
  have integral := numbered.integral
  refine ⟨fun id record number found used => numbered.bounded found used,
    integral.count_blocks, fun number record found => ?_,
    fun realm record index kind defaults found typed within => ?_,
    fun realm record number found listed => ?_⟩
  · exact integral.typed number record.unsignedZeros (blocks_eq_links found).1
  · obtain ⟨absent, unlinked, unsent, unreturned⟩ := numbered.unused
    have done := desk.editor.insert_of_fresh found typed within absent kind defaults
    exact ⟨_, by simp only [step, done], absent, unlinked, unsent, unreturned⟩
  · rw [← (blocks_eq_links found).2] at listed ⊢
    refine ⟨(integral.lists_once listed listed).2, fun id other present inside => ?_,
      integral.position_of_listed listed⟩
    rw [← (blocks_eq_links present).2] at inside
    exact (integral.lists_once inside listed).1

/-- Behind a saved block a new one has the position one, and the next one gets a new id. -/
theorem pending_ids_in_order_behind_saved :
    let block : Json := .obj [("id", .str "b"), ("__typename", .str "TitleBlock")]
    let answer : Json := .obj [("realm", .obj [("id", .str "r"), ("__typename", .str "Realm"),
      ("blocks", .arr [block])])]
    let events : List Event := [.navigate (Place.realmContent "/").url, .resolve 1 (.ok answer),
      .insert (.persisted "r") 1 .title ∅]
    let desk := (start .standard).run events
    ∃ record, (∀ event ∈ events, event.InSession FieldMap.Unlinked) ∧
      desk.cache.store.read (.persisted "r") = some record ∧ record.typeTag = realmType ∧
      record.links Field.blocks = [.persisted "b", .pending 1] ∧
      (∃ front back, record.links Field.blocks = front ++ .pending 1 :: back ∧
        Dispatcher.position desk.cache.store (.pending 1) =
          .ok (.persisted "r", (front.filter (!·.isPending)).length)) ∧
      ∃ block, (desk.step (.insert (.persisted "r") 2 .text ∅)).1 = .inserted (.ok block) ∧
        desk.cache.store.read block = none := by
  intro block answer events desk
  have session : ∀ event ∈ events, event.InSession FieldMap.Unlinked := by
    simp [events, Event.InSession, FieldMap.Unlinked]
  obtain ⟨-, -, -, inserts, positions⟩ := pending_ids_in_order .standard session
  let record : Record := ⟨"Realm", FieldMap.ofList [
    (Field.blocks, .links [.persisted "b", .pending 1])]⟩
  have found : desk.cache.store.read (.persisted "r") = some record := by decide +kernel
  have typed : record.typeTag = realmType := rfl
  have listed : record.links Field.blocks = [.persisted "b", .pending 1] := by decide +kernel
  obtain ⟨-, -, position⟩ := positions _ record 1 found (by simp [listed])
  obtain ⟨new, inserted, absent, -⟩ := inserts _ record 2 .text ∅ found typed (by simp [listed])
  exact ⟨record, session, found, typed, listed, position, new, inserted, absent⟩

end Desk

end RealmDesk
