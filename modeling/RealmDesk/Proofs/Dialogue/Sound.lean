import RealmDesk.Proofs.Dialogue.Basic

/-!
# What desk and server know of each other

The invariant of every run. A request in flight belongs to one block of the list, unless the list
was loaded since the request was sent: then the pending id is gone from the list, and the id that
the server gave is listed if the list that was loaded had it. A list that was read is part of what
the server has, since the server never gives up an id.
-/

namespace RealmDesk

namespace Desk.Rearranged

variable {desk : Desk} {blocks later : List RecordId}

theorem mem_persisted (rearranged : desk.Rearranged blocks later) (text : String) :
    .persisted text ∈ later ↔ .persisted text ∈ blocks := by
  cases rearranged with
  | same => exact Iff.rfl
  | inserted index within => simp [List.mem_insertIdx within]
  | removed number free => simp

/-- No pending id that was given out before comes into the list. -/
theorem mem_of_pending (rearranged : desk.Rearranged blocks later) {number : Nat}
    (bound : number ≤ desk.cache.store.lastPending) (listed : .pending number ∈ later) :
    .pending number ∈ blocks := by
  cases rearranged with
  | same => exact listed
  | inserted index within =>
      rcases List.eq_or_mem_of_mem_insertIdx listed with same | old
      · have equal := RecordId.pending.inj same
        omega
      · exact old
  | removed other free => exact (List.mem_filter.mp listed).1

theorem mem_inFlight (rearranged : desk.Rearranged blocks later) {ticket number : Nat}
    {request : SaveRequest}
    (standing : desk.editor.dispatcher.inFlight[ticket]? = some request)
    (block : request.block = .pending number)
    (bound : number ≤ desk.cache.store.lastPending) :
    request.block ∈ later ↔ request.block ∈ blocks := by
  constructor
  · rw [block]
    exact rearranged.mem_of_pending bound
  · intro listed
    cases rearranged with
    | same => exact listed
    | inserted index within => exact List.subset_insertIdx _ _ _ listed
    | removed other free =>
        have different := Dispatcher.isInFlight_eq_false.mp free ticket request standing
        exact List.mem_filter.mpr ⟨listed, by simpa using different⟩

end Desk.Rearranged

namespace Dialogue

theorem indexIn?_eq_some {realm : String} {request : SaveRequest} {index : Nat} :
    indexIn? realm request = some index ↔
      ∃ input, request.mutation = .create realm index input := by
  rw [indexIn?]
  cases request.mutation with
  | update id input => simp
  | create target place input =>
      by_cases same : target = realm <;> simp [same]

theorem serve?_eq_some {realm : String} {world next : Dialogue} {ticket : Nat} {id : String} :
    world.serve? realm ticket id = some next ↔
      ∃ request index, world.request? ticket = some request ∧
        indexIn? realm request = some index ∧
        (∀ handling ∈ world.handled, handling.request ≠ request) ∧ id ∉ world.served ∧
        index ≤ world.served.length ∧
        next = { world with
          served := world.served.insertIdx index id
          handled := ⟨request, id, world.served.insertIdx index id⟩ :: world.handled } := by
  simp only [serve?, Option.bind_eq_bind, Option.bind_eq_some_iff, Option.ite_none_right_eq_some,
    Option.pure_def, Option.some.injEq, handling?, Option.isNone_iff_eq_none,
    List.find?_eq_none, decide_eq_true_eq, and_assoc, eq_comm (a := next), exists_and_left]

/-- The list was loaded since a request was sent. -/
def Overtaken (world : Dialogue) (request : SaveRequest) : Prop :=
  ∃ load ∈ world.loaded, request.ticket ≤ load.1

/-- The list was loaded since a request was sent, and it had an id. -/
def Shown (world : Dialogue) (request : SaveRequest) (id : String) : Prop :=
  ∃ load ∈ world.loaded, request.ticket ≤ load.1 ∧ id ∈ load.2

/-- A request that was handled created a pending block in the realm. -/
structure Dealt (realm : String) (world : Dialogue) (handling : Handling) : Prop where
  /-- The new block stands at the index of the request. -/
  placed : ∃ index, indexIn? realm handling.request = some index ∧
    handling.list[index]? = some handling.id
  /-- The block has a pending id that was given out. -/
  pending : ∃ number, handling.request.block = .pending number ∧
    number ≤ world.desk.cache.store.lastPending
  /-- The request was handed out. -/
  ticket : handling.request.ticket ≤ world.desk.editor.dispatcher.lastTicket
  /-- The server has the new block. -/
  served : handling.id ∈ world.served

theorem Dealt.mono {realm : String} {world later : Dialogue} {handling : Handling}
    (dealt : Dealt realm world handling)
    (counted : world.desk.cache.store.lastPending ≤ later.desk.cache.store.lastPending)
    (tickets : world.desk.editor.dispatcher.lastTicket ≤ later.desk.editor.dispatcher.lastTicket)
    (served : ∀ id ∈ world.served, id ∈ later.served) : Dealt realm later handling := by
  obtain ⟨number, block, bound⟩ := dealt.pending
  exact ⟨dealt.placed, ⟨number, block, Nat.le_trans bound counted⟩,
    Nat.le_trans dealt.ticket tickets, served _ dealt.served⟩

/-- What holds throughout a run. -/
structure Sound (realm : String) (world : Dialogue) : Prop where
  /-- The pending ids are in order. -/
  tended : world.desk.Tended (.persisted realm)
  /-- A request in flight stands under its ticket, which was given out. -/
  ticketed : ∀ ticket request, world.request? ticket = some request →
    request.ticket = ticket ∧ ticket ≤ world.desk.editor.dispatcher.lastTicket
  /-- A block has one request in flight at most. -/
  single : ∀ ticket other request later, world.request? ticket = some request →
    world.request? other = some later → request.block = later.block → ticket = other
  /-- Every request that was handled created a block. -/
  handled : ∀ handling ∈ world.handled, Dealt realm world handling
  /-- No request was handled twice, and no id given twice. -/
  distinct : world.handled.Pairwise fun later earlier =>
    later.request ≠ earlier.request ∧ later.id ≠ earlier.id
  /-- The server has what was read. -/
  readings : ∀ reading ∈ world.readings, ∀ id ∈ reading.2, id ∈ world.served
  /-- The server has what was loaded. -/
  loaded : ∀ load ∈ world.loaded, load.1 ≤ world.desk.editor.dispatcher.lastTicket ∧
    ∀ id ∈ load.2, id ∈ world.served
  /-- The server has every saved block of the list. -/
  known : ∀ id, .persisted id ∈ world.blocks realm → id ∈ world.served
  /-- A block that is being created is listed until the list is loaded. -/
  waiting : (world.desk.view (.persisted realm)).isSome →
    ∀ ticket request, world.request? ticket = some request → (indexIn? realm request).isSome →
      (request.block ∈ world.blocks realm ↔ ¬world.Overtaken request)
  /-- The new id of a block that is being created is listed if it was loaded. -/
  arrived : (world.desk.view (.persisted realm)).isSome →
    ∀ ticket request, world.request? ticket = some request →
      ∀ handling ∈ world.handled, handling.request = request →
        (.persisted handling.id ∈ world.blocks realm ↔ world.Shown request handling.id)

variable {realm : String} {world : Dialogue}

namespace Sound

theorem pending_block (sound : world.Sound realm) {ticket : Nat} {request : SaveRequest}
    (standing : world.request? ticket = some request) (creates : (indexIn? realm request).isSome) :
    ∃ number, request.block = .pending number ∧
      number ≤ world.desk.cache.store.lastPending := by
  obtain ⟨index, at?⟩ := Option.isSome_iff_exists.mp creates
  obtain ⟨input, asked⟩ := indexIn?_eq_some.mp at?
  obtain ⟨number, block, bound, -⟩ :=
    sound.tended.asked request realm index input ⟨ticket, .inl standing⟩ asked
  exact ⟨number, block, bound⟩

theorem creates (sound : world.Sound realm) {handling : Handling}
    (member : handling ∈ world.handled) : (indexIn? realm handling.request).isSome := by
  obtain ⟨index, at?, -⟩ := (sound.handled handling member).placed
  simp [at?]

/-- The invariant is kept by whatever rearranges the list and hands out no request. -/
theorem moved (sound : world.Sound realm) {desk : Desk} (tended : desk.Tended (.persisted realm))
    (counted : world.desk.cache.store.lastPending ≤ desk.cache.store.lastPending)
    (older : ∀ (ticket : Nat) (request : SaveRequest),
      desk.editor.dispatcher.inFlight[ticket]? = some request →
        world.request? ticket = some request)
    (lastTicket : desk.editor.dispatcher.lastTicket = world.desk.editor.dispatcher.lastTicket)
    (kept : (desk.view (.persisted realm)).isSome →
      (world.desk.view (.persisted realm)).isSome ∧
        world.desk.Rearranged (world.blocks realm) (desk.view.blocks (.persisted realm))) :
    Sound realm { world with desk } where
  tended := tended
  ticketed ticket request standing := by
    rw [lastTicket]
    exact sound.ticketed ticket request (older ticket request standing)
  single ticket other request later standing laterStanding :=
    sound.single ticket other request later (older ticket request standing)
      (older other later laterStanding)
  handled handling member := (sound.handled handling member).mono counted
    (Nat.le_of_eq lastTicket.symm) fun _ member => member
  distinct := sound.distinct
  readings := sound.readings
  loaded load member := by
    rw [lastTicket]
    exact sound.loaded load member
  known id listed := by
    cases present : desk.view (.persisted realm) with
    | none => simp [blocks, View.blocks, present] at listed
    | some record =>
        exact sound.known id (((kept (by simp [present])).2.mem_persisted id).mp listed)
  waiting present ticket request standing creates := by
    obtain ⟨stored, rearranged⟩ := kept present
    have old := older ticket request standing
    obtain ⟨number, block, bound⟩ := sound.pending_block old creates
    exact (rearranged.mem_inFlight old block bound).trans
      (sound.waiting stored ticket request old creates)
  arrived present ticket request standing handling member same := by
    obtain ⟨stored, rearranged⟩ := kept present
    exact (rearranged.mem_persisted handling.id).trans
      (sound.arrived stored ticket request (older ticket request standing) handling member same)

/-- A request that is handed out is for a listed block, if it is for the realm. -/
theorem sent (sound : world.Sound realm) {desk : Desk} (tended : desk.Tended (.persisted realm))
    {block : RecordId} {input : BlockInput} {request : SaveRequest}
    (cache : desk.cache = world.desk.cache)
    (dispatched : world.desk.editor.dispatcher.dispatch world.desk.cache.store block input =
      .ok (request, desk.editor.dispatcher)) : Sound realm { world with desk } := by
  obtain ⟨next, same, later, free, -, -⟩ := Dispatcher.dispatch_of_ok dispatched
  obtain ⟨asked, flights⟩ := Desk.asked_of_dispatch dispatched
  have shown : desk.view = world.desk.view := by rw [Desk.view, cache]
  have lists : blocks realm { world with desk } = world.blocks realm := by
    rw [blocks, blocks, shown]
  have lastTicket : desk.editor.dispatcher.lastTicket =
      world.desk.editor.dispatcher.lastTicket + 1 := by rw [later, ← next]
  have others {ticket : Nat} {other : SaveRequest} (old : world.request? ticket = some other) :
      other.block ≠ request.block := by
    rw [same]
    exact Dispatcher.isInFlight_eq_false.mp free ticket other old
  refine ⟨tended, fun ticket other standing => ?_,
    fun ticket number other last standing lastStanding equal => ?_, fun handling member => ?_,
    sound.distinct, sound.readings, fun load member => ?_, ?_,
    fun stored ticket other standing creates => ?_,
    fun stored ticket other standing handling member equal => ?_⟩
  · rcases flights _ _ standing with ⟨rfl, rfl⟩ | old
    · exact ⟨rfl, Nat.le_of_eq (next.trans lastTicket.symm)⟩
    · obtain ⟨own, bound⟩ := sound.ticketed ticket other old
      exact ⟨own, lastTicket ▸ Nat.le_succ_of_le bound⟩
  · rcases flights _ _ standing with ⟨rfl, rfl⟩ | old <;>
      rcases flights _ _ lastStanding with ⟨rfl, rfl⟩ | lastOld
    · rfl
    · exact absurd equal.symm (others lastOld)
    · exact absurd equal (others old)
    · exact sound.single ticket number other last old lastOld equal
  · exact (sound.handled handling member).mono (Nat.le_of_eq (by rw [cache]))
      (lastTicket ▸ Nat.le_succ _) fun _ member => member
  · obtain ⟨bound, within⟩ := sound.loaded load member
    exact ⟨lastTicket ▸ Nat.le_succ_of_le bound, within⟩
  · rw [lists]
    exact sound.known
  · rw [lists]
    rcases flights _ _ standing with ⟨rfl, rfl⟩ | old
    · -- The new ticket is beyond the one at which the list was loaded last.
      obtain ⟨index, at?⟩ := Option.isSome_iff_exists.mp creates
      obtain ⟨input, created⟩ := indexIn?_eq_some.mp at?
      refine ⟨fun _ => ?_, fun _ => (asked realm index input created).2.2⟩
      rintro ⟨load, member, overtaken⟩
      have bound := (sound.loaded load member).1
      omega
    · exact sound.waiting (shown ▸ stored) ticket other old creates
  · rw [lists]
    rcases flights _ _ standing with ⟨rfl, rfl⟩ | old
    · have bound := (sound.handled handling member).ticket
      rw [equal, next] at bound
      omega
    · exact sound.arrived (shown ▸ stored) ticket other old handling member equal

theorem alone (sound : world.Sound realm) {event : Desk.Event} (solitary : event.Solitary) :
    Sound realm { world with desk := (world.desk.step event).2 } := by
  have tended := sound.tended.step solitary.inSession
  obtain ⟨counted, kept, resent⟩ := Desk.alone_step solitary world.desk realm
  cases resent with
  | fewer older lastTicket => exact sound.moved tended counted older lastTicket kept
  | sent block input request cache dispatched => exact sound.sent tended cache dispatched

theorem of_serve? (sound : world.Sound realm) {ticket : Nat} {id : String} {next : Dialogue}
    (served : world.serve? realm ticket id = some next) : next.Sound realm := by
  obtain ⟨request, index, standing, at?, unhandled, fresh, within, rfl⟩ :=
    serve?_eq_some.mp served
  have grown : ∀ other ∈ world.served, other ∈ world.served.insertIdx index id :=
    fun other member => List.subset_insertIdx _ _ _ member
  have creates : (indexIn? realm request).isSome := by simp [at?]
  refine ⟨sound.tended, sound.ticketed, sound.single, fun handling member => ?_, ?_,
    fun reading member other inside => grown other (sound.readings reading member other inside),
    fun load member => ?_, fun other listed => grown other (sound.known other listed),
    sound.waiting, fun stored number other flying handling member same => ?_⟩
  · rcases List.mem_cons.mp member with rfl | old
    · exact ⟨⟨index, at?, by simp [List.getElem?_insertIdx_self, within]⟩,
        sound.pending_block standing creates,
        (sound.ticketed ticket request standing).1 ▸ (sound.ticketed ticket request standing).2,
        (List.mem_insertIdx within).mpr (.inl rfl)⟩
    · exact (sound.handled handling old).mono (Nat.le_refl _) (Nat.le_refl _) grown
  · refine List.pairwise_cons.mpr ⟨fun earlier member => ⟨?_, ?_⟩, sound.distinct⟩
    · exact fun same => unhandled earlier member same.symm
    · rintro rfl
      exact fresh (sound.handled earlier member).served
  · obtain ⟨bound, inside⟩ := sound.loaded load member
    exact ⟨bound, fun other listed => grown other (inside other listed)⟩
  · rcases List.mem_cons.mp member with rfl | old
    · -- The server did not have the id, so it is neither listed nor loaded.
      refine ⟨fun listed => absurd (sound.known id listed) fresh, ?_⟩
      rintro ⟨load, member, -, inside⟩
      exact absurd ((sound.loaded load member).2 id inside) fresh
    · exact sound.arrived stored number other flying handling old same

theorem of_read? (sound : world.Sound realm) {generation : Nat} {next : Dialogue}
    (read : world.read? generation = some next) : next.Sound realm := by
  rw [read?] at read
  split at read
  case isFalse => cases read
  case isTrue =>
    obtain rfl := Option.some.inj read
    refine ⟨sound.tended, sound.ticketed, sound.single, fun handling member =>
      (sound.handled handling member).mono (Nat.le_refl _) (Nat.le_refl _) fun _ member => member,
      sound.distinct, fun reading member => ?_, sound.loaded, sound.known, sound.waiting,
      sound.arrived⟩
    rcases List.mem_cons.mp member with rfl | old
    · exact fun id member => member
    · exact sound.readings reading old

end Sound

end Dialogue

end RealmDesk
