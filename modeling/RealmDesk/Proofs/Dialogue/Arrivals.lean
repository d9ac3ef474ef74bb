import Mathlib.Data.List.Pairwise
import RealmDesk.Proofs.Dialogue.Sound

/-!
# What arrives from the server

The answer to a request changes the list of the realm in one slot at most, whatever list it brings;
the answer to a fetch replaces the whole list. Both keep what desk and server know of each other, so
it is kept by every run.
-/

namespace RealmDesk

namespace Dialogue

variable {realm : String} {world : Dialogue}

/-- What the answer to a request makes of the list of the realm. -/
inductive Heard (realm : String) (world : Dialogue) (request : SaveRequest) (desk : Desk) :
    SaveOutcome → Prop where
  /-- The list stays as it is. A new block of the realm fails only if the realm is gone. -/
  | kept (outcome : SaveOutcome)
      (stored : (desk.view (.persisted realm)).isSome ↔
        (world.desk.view (.persisted realm)).isSome)
      (blocks : desk.view.blocks (.persisted realm) = world.blocks realm)
      (failed : (indexIn? realm request).isSome →
        (∃ error, outcome = .failed request.block error) ∧
          world.desk.view (.persisted realm) = none) :
      Heard realm world request desk outcome
  /-- The new block takes the id of the server. -/
  | renamed (handling : Handling) (member : handling ∈ world.handled)
      (same : handling.request = request)
      (before : (world.desk.view (.persisted realm)).isSome)
      (after : (desk.view (.persisted realm)).isSome)
      (blocks : desk.view.blocks (.persisted realm) =
        (world.blocks realm).replace request.block (.persisted handling.id)) :
      Heard realm world request desk (.saved request.block (.persisted handling.id))

theorem answer?_eq_some {ticket : Nat} {data : Json} {next : Dialogue} :
    world.answer? realm ticket data = some next ↔
      ∃ request, world.request? ticket = some request ∧ Answers realm world request data ∧
        next = { world with desk := (world.desk.step (.complete ticket (.ok data))).2 } := by
  simp only [answer?, Option.bind_eq_bind, Option.bind_eq_some_iff, Option.ite_none_right_eq_some,
    Option.pure_def, Option.some.injEq, eq_comm (a := next)]

namespace Sound

theorem created_eq (sound : world.Sound realm) {handling : Handling}
    (member : handling ∈ world.handled) {index : Nat} {input : BlockInput} {data : Json}
    {normalized : Normalized} (asked : handling.request.mutation = .create realm index input)
    (listed : Normalized.listed? data (answerField handling.request) realm =
      some (handling.list.map RecordId.persisted))
    (read : Normalized.ofResult (.ok data) = .ok normalized) :
    Dispatcher.createdBlock? normalized (Operation.createBlockField input.kind) index =
      some (.persisted handling.id) := by
  obtain ⟨other, record, same, linked, links⟩ := Normalized.listed?_eq_some.mp listed
  obtain rfl : normalized = other := by simpa [read] using same
  obtain ⟨place, at?, placed⟩ := (sound.handled handling member).placed
  obtain ⟨_, created⟩ := indexIn?_eq_some.mp at?
  obtain rfl : index = place := by
    rw [asked] at created
    exact (Mutation.create.inj created).2.1
  have field : answerField handling.request = Operation.createBlockField input.kind := by
    rw [answerField, asked]
  rw [field] at linked
  simp [Dispatcher.createdBlock?, linked, links, placed]

/-- The answer to a request that creates a block of the realm lists the block. -/
theorem heard_of_creates (sound : world.Sound realm) {ticket : Nat} {request : SaveRequest}
    {data : Json} {outcome : SaveOutcome} {middle : Cache}
    (standing : world.request? ticket = some request) (answers : Answers realm world request data)
    (answered : world.desk.Answered ticket (.ok data) request outcome middle)
    (creates : (indexIn? realm request).isSome) :
    Heard realm world request (world.desk.step (.complete ticket (.ok data))).2 outcome := by
  have isSome := answered.isSome (.persisted realm)
  have blocks := answered.blocks (.persisted realm)
  obtain ⟨handling, dealt, listed⟩ := (if_pos creates).mp answers
  obtain ⟨index, at?⟩ := Option.isSome_iff_exists.mp creates
  obtain ⟨input, asked⟩ := indexIn?_eq_some.mp at?
  have same : handling.request = request := by simpa using List.find?_some dealt
  have member : handling ∈ world.handled := List.mem_of_find?_eq_some dealt
  obtain ⟨normalized, -, read, -⟩ := Normalized.listed?_eq_some.mp listed
  subst same
  have named := sound.created_eq member asked listed read
  have finished := answered.finished
  clear answered
  cases finished with
  | refused error wrote reason =>
      refine .kept _ (by rw [isSome, wrote.view]) (by rw [blocks, wrote.view]; rfl)
        fun _ => ⟨⟨error, rfl⟩, ?_⟩
      obtain ⟨text, place, other, created, none | absent⟩ := reason normalized read
      · obtain ⟨rfl, rfl, rfl⟩ := Mutation.create.inj (asked.symm.trans created)
        rw [named] at none
        cases none
      · obtain ⟨rfl, rfl, rfl⟩ := Mutation.create.inj (asked.symm.trans created)
        exact absent
  | updated id other _ updated =>
      rw [asked] at updated
      cases updated
  | created text place other later saved created again id present wrote =>
      obtain ⟨rfl, rfl, rfl⟩ := Mutation.create.inj (asked.symm.trans created)
      obtain rfl : normalized = later := by simpa [read] using again
      obtain rfl : _ = saved := Option.some.inj (named.symm.trans id)
      obtain ⟨number, pending, -⟩ := sound.pending_block standing creates
      have different : .persisted realm ≠ handling.request.block := by simp [pending]
      refine .renamed handling member rfl present ?_ ?_
      · rw [isSome, wrote.view]
        exact (View.isSome_adopt ..).mpr (.inl ⟨different, present⟩)
      · rw [blocks, wrote.view]
        exact View.blocks_adopt_self present different

theorem heard_of_silent (sound : world.Sound realm) {ticket : Nat} {request : SaveRequest}
    {data : Json} {outcome : SaveOutcome} {middle : Cache}
    (standing : world.request? ticket = some request) (answers : Answers realm world request data)
    (answered : world.desk.Answered ticket (.ok data) request outcome middle)
    (creates : ¬(indexIn? realm request).isSome) :
    Heard realm world request (world.desk.step (.complete ticket (.ok data))).2 outcome := by
  have isSome := answered.isSome (.persisted realm)
  have blocks := answered.blocks (.persisted realm)
  have silent := (if_neg creates).mp answers
  have finished := answered.finished
  clear answered
  cases finished with
  | refused error wrote reason =>
      exact .kept _ (by rw [isSome, wrote.view]) (by rw [blocks, wrote.view]; rfl)
        fun created => absurd created creates
  | updated id input normalized updated read wrote =>
      have absent := Normalized.not_mem_of_mentions silent read
      have shown : middle.store.records.view (.persisted realm) =
          world.desk.view (.persisted realm) := by
        rw [wrote.view, View.mergeSnapshot_of_absent absent]
      refine .kept _ (by rw [isSome, shown]) ?_ fun created => absurd created creates
      rw [blocks, View.blocks, shown]
      rfl
  | created text index input normalized saved asked read named present wrote =>
      have absent := Normalized.not_mem_of_mentions silent read
      have notRealm : RecordId.persisted realm ≠ .persisted text := by
        rintro same
        obtain rfl := RecordId.persisted.inj same
        exact creates (by simp [indexIn?, asked])
      obtain ⟨number, pending, -⟩ := sound.tended.asked request text index input
        ⟨ticket, .inl standing⟩ asked
      have different : .persisted realm ≠ request.block := by simp [pending]
      refine .kept _ ?_ ?_ fun created => absurd created creates
      · rw [isSome, wrote.view, View.isSome_adopt]
        exact ⟨fun held => (held.resolve_right absent).2, fun stored => .inl ⟨different, stored⟩⟩
      · rw [blocks, wrote.view]
        exact View.blocks_adopt_of_ne notRealm different fun entry member same =>
          absurd (List.mem_map.mpr ⟨entry, member, same⟩) absent

theorem heard (sound : world.Sound realm) {ticket : Nat} {request : SaveRequest} {data : Json}
    (standing : world.request? ticket = some request)
    (answers : Answers realm world request data) :
    ∃ outcome middle, world.desk.Answered ticket (.ok data) request outcome middle ∧
      Heard realm world request (world.desk.step (.complete ticket (.ok data))).2 outcome := by
  obtain ⟨outcome, middle, answered⟩ := Desk.answered_of_standing standing (.ok data)
  refine ⟨outcome, middle, answered, ?_⟩
  by_cases creates : (indexIn? realm request).isSome
  · exact sound.heard_of_creates standing answers answered creates
  · exact sound.heard_of_silent standing answers answered creates

theorem handling_unique (sound : world.Sound realm) {handling other : Handling}
    (member : handling ∈ world.handled) (otherMember : other ∈ world.handled)
    (same : handling.request = other.request ∨ handling.id = other.id) : handling = other := by
  have symmetric : Std.Symm fun later earlier : Handling =>
      later.request ≠ earlier.request ∧ later.id ≠ earlier.id :=
    ⟨fun _ _ apart => ⟨apart.1.symm, apart.2.symm⟩⟩
  by_contra different
  obtain ⟨request, id⟩ := sound.distinct.forall member otherMember different
  exact same.elim request id

/-- The invariant is kept when a new block takes the id of the server. -/
theorem renamed (sound : world.Sound realm) {ticket : Nat} {handling : Handling} {desk : Desk}
    (standing : world.request? ticket = some handling.request) (member : handling ∈ world.handled)
    (tended : desk.Tended (.persisted realm))
    (counted : desk.cache.store.lastPending = world.desk.cache.store.lastPending)
    (dispatcher : desk.editor.dispatcher = { world.desk.editor.dispatcher with
      inFlight := world.desk.editor.dispatcher.inFlight.erase ticket })
    (before : (world.desk.view (.persisted realm)).isSome)
    (replaced : desk.view.blocks (.persisted realm) =
      (world.blocks realm).replace handling.request.block (.persisted handling.id)) :
    Sound realm { world with desk } := by
  have lists : blocks realm { world with desk } = _ := replaced
  obtain ⟨number, block, -⟩ := (sound.handled handling member).pending
  -- The other requests in flight are for other blocks, and got other ids.
  have others {other : Nat} {request : SaveRequest}
      (flying : desk.editor.dispatcher.inFlight[other]? = some request) :
      world.request? other = some request ∧ request.block ≠ handling.request.block := by
    rw [dispatcher] at flying
    dsimp only at flying
    refine ⟨Desk.sent_of_erase flying, fun same => ?_⟩
    obtain rfl := sound.single other ticket request handling.request
      (Desk.sent_of_erase flying) standing same
    simp at flying
  have listed {id : RecordId} (notPending : id ≠ handling.request.block)
      (notSaved : id ≠ .persisted handling.id) :
      id ∈ blocks realm { world with desk } ↔ id ∈ world.blocks realm := by
    rw [lists]
    exact mem_replace_of_ne notPending notSaved
  have lastTicket : desk.editor.dispatcher.lastTicket =
      world.desk.editor.dispatcher.lastTicket := by rw [dispatcher]
  refine ⟨tended, fun other request flying => ?_,
    fun other last request later flying lastFlying same => ?_, fun earlier dealt => ?_,
    sound.distinct, sound.readings, fun load member => ?_, fun id present => ?_,
    fun _ other request flying creates => ?_,
    fun _ other request flying earlier dealt same => ?_⟩
  · rw [lastTicket]
    exact sound.ticketed other request (others flying).1
  · exact sound.single other last request later (others flying).1 (others lastFlying).1 same
  · exact (sound.handled earlier dealt).mono (Nat.le_of_eq counted.symm)
      (Nat.le_of_eq lastTicket.symm) fun _ member => member
  · rw [lastTicket]
    exact sound.loaded load member
  · by_cases new : RecordId.persisted id = .persisted handling.id
    · rw [RecordId.persisted.inj new]
      exact (sound.handled handling member).served
    · exact sound.known id ((listed (by simp [block]) new).mp present)
  · obtain ⟨old, different⟩ := others flying
    obtain ⟨own, pending, -⟩ := sound.pending_block old creates
    exact (listed different (by simp [pending])).trans
      (sound.waiting before other request old creates)
  · obtain ⟨old, different⟩ := others flying
    have apart : earlier.id ≠ handling.id := fun equal =>
      different (by rw [← same, sound.handling_unique dealt member (.inr equal)])
    exact (listed (by simp [block]) (by simpa using apart)).trans
      (sound.arrived before other request old earlier dealt same)

theorem of_answer? (sound : world.Sound realm) {ticket : Nat} {data : Json} {next : Dialogue}
    (answered : world.answer? realm ticket data = some next) : next.Sound realm := by
  obtain ⟨request, standing, answers, rfl⟩ := answer?_eq_some.mp answered
  have tended : (world.desk.step (.complete ticket (.ok data))).2.Tended (.persisted realm) :=
    sound.tended.step trivial
  obtain ⟨outcome, middle, answered, heard⟩ := sound.heard standing answers
  have dispatcher := answered.dispatcher
  cases heard with
  | kept outcome stored blocks failed =>
      refine sound.moved tended (Nat.le_of_eq answered.lastPending.symm)
        (fun number other flying => ?_) (by rw [dispatcher]) fun present =>
          ⟨stored.mp present, blocks ▸ .same⟩
      rw [dispatcher] at flying
      exact Desk.sent_of_erase flying
  | renamed handling member same before after blocks =>
      subst same
      exact sound.renamed standing member tended answered.lastPending dispatcher before blocks

end Sound

/-! ## Answers to fetches -/

theorem load?_eq_some {generation : Nat} {field : String} {data : Json} {next : Dialogue} :
    world.load? realm generation field data = some next ↔
      ∃ list, world.readings.lookup generation = some list ∧
        Normalized.listed? data field realm = some (list.map RecordId.persisted) ∧
        next = { world with
          desk := (world.desk.step (.resolve generation (.ok data))).2
          loaded := world.loadedAfter list
            (world.desk.step (.resolve generation (.ok data))).1 } := by
  simp only [load?, Option.bind_eq_bind, Option.bind_eq_some_iff, Option.ite_none_right_eq_some,
    Option.pure_def, Option.some.injEq, eq_comm (a := next)]

/-- What the answer to a fetch makes of desk and server. -/
inductive Loads (realm : String) (world : Dialogue) (list : List String) : Dialogue → Prop where
  /-- The fetch was superseded. -/
  | stale (desk : Desk) (cache : desk.cache = world.desk.cache)
      (editor : desk.editor = world.desk.editor) : Loads realm world list { world with desk }
  /-- The list is loaded. -/
  | applied (desk : Desk) (editor : desk.editor = world.desk.editor)
      (lastPending : desk.cache.store.lastPending = world.desk.cache.store.lastPending)
      (blocks : (desk.view (.persisted realm)).isSome →
        desk.view.blocks (.persisted realm) = list.map RecordId.persisted) :
      Loads realm world list { world with
        desk, loaded := some (world.desk.editor.dispatcher.lastTicket, list) }

theorem loads_of_load? {generation : Nat} {field : String} {data : Json} {next : Dialogue}
    (load : world.load? realm generation field data = some next) :
    ∃ list, (generation, list) ∈ world.readings ∧ Loads realm world list next ∧
      next.desk = (world.desk.step (.resolve generation (.ok data))).2 := by
  obtain ⟨list, found, listed, rfl⟩ := load?_eq_some.mp load
  obtain ⟨front, back, split, -⟩ := List.lookup_eq_some_iff.mp found
  refine ⟨list, by simp [split], ?_, rfl⟩
  obtain ⟨normalized, record, read, linked, links⟩ := Normalized.listed?_eq_some.mp listed
  have resolved : (world.desk.step (.resolve generation (.ok data))).1 =
      .resolved (world.desk.navigator.resolve world.desk.cache generation (.ok data)).1 := rfl
  rw [resolved]
  rcases world.desk.navigator.resolve_cases world.desk.cache generation (.ok data) with
    ⟨stale, same⟩ | ⟨applied, ⟨other, middle, again, wrote, tidied⟩ | ⟨⟨error, failed⟩, -⟩⟩
  · rw [stale]
    exact .stale _ same rfl
  · obtain rfl : normalized = other := by simpa [read] using again
    rw [applied]
    refine .applied _ rfl (tidied.lastPending.trans wrote.lastPending_eq) fun present => ?_
    have closed := (Normalized.closed_of_ofResult read).1
    have shown : (world.desk.step (.resolve generation (.ok data))).2.view (.persisted realm) =
        middle.store.records.view (.persisted realm) := tidied.view_eq present
    rw [View.blocks, shown, wrote.view]
    exact View.blocks_mergeSnapshot_of_present closed.distinct
      (Normalized.mem_entries_of_linked? linked) links
  · rw [read] at failed
    cases failed

namespace Sound

/-- The invariant is kept when the list is loaded. -/
theorem reloaded (sound : world.Sound realm) {desk : Desk} {list : List String}
    (tended : desk.Tended (.persisted realm)) (editor : desk.editor = world.desk.editor)
    (counted : desk.cache.store.lastPending = world.desk.cache.store.lastPending)
    (served : ∀ id ∈ list, id ∈ world.served)
    (loaded : (desk.view (.persisted realm)).isSome →
      desk.view.blocks (.persisted realm) = list.map RecordId.persisted) :
    Sound realm { world with
      desk, loaded := some (world.desk.editor.dispatcher.lastTicket, list) } := by
  have flights : desk.editor.dispatcher = world.desk.editor.dispatcher := by rw [editor]
  refine ⟨tended, ?_, ?_, fun handling member => ?_, sound.distinct, sound.readings, ?_,
    fun id listed => ?_, fun stored ticket request standing creates => ?_,
    fun stored ticket request standing handling member same => ?_⟩
  · simpa only [request?, flights] using sound.ticketed
  · simpa only [request?, flights] using sound.single
  · exact (sound.handled handling member).mono (Nat.le_of_eq counted.symm)
      (Nat.le_of_eq (by rw [flights])) fun _ member => member
  · rintro load ⟨⟩
    exact ⟨Nat.le_of_eq (by rw [flights]), served⟩
  · cases present : desk.view (.persisted realm) with
    | none => simp [blocks, View.blocks, present] at listed
    | some record =>
        rw [blocks, loaded (by simp [present])] at listed
        exact served id (by simpa using listed)
  · -- Every request in flight is overtaken, and no pending id is listed.
    have old : world.request? ticket = some request := by
      simpa only [request?, flights] using standing
    obtain ⟨number, pending, -⟩ := sound.pending_block old creates
    obtain ⟨own, bound⟩ := sound.ticketed ticket request old
    rw [blocks, loaded stored]
    simp [pending, Overtaken, own, bound]
  · have old : world.request? ticket = some request := by
      simpa only [request?, flights] using standing
    obtain ⟨own, bound⟩ := sound.ticketed ticket request old
    rw [blocks, loaded stored]
    simp [Shown, own, bound]

theorem of_load? (sound : world.Sound realm) {generation : Nat} {field : String} {data : Json}
    {next : Dialogue} (load : world.load? realm generation field data = some next) :
    next.Sound realm := by
  obtain ⟨list, reading, loads, same⟩ := loads_of_load? load
  have tended : next.desk.Tended (.persisted realm) := by
    rw [same]
    exact sound.tended.step trivial
  clear same
  cases loads with
  | stale desk cache editor =>
      have shown : desk.view (.persisted realm) = world.desk.view (.persisted realm) := by
        rw [Desk.view, cache]
      refine sound.moved tended (Nat.le_of_eq (by rw [cache])) (fun ticket request standing => ?_)
        (by rw [editor]) fun present => ⟨shown ▸ present, ?_⟩
      · rwa [editor] at standing
      · rw [show desk.view.blocks (.persisted realm) = world.blocks realm by
          rw [blocks, View.blocks, View.blocks, shown]]
        exact .same
  | applied desk editor lastPending blocks =>
      exact sound.reloaded tended editor lastPending (sound.readings _ reading) blocks

theorem act? (sound : world.Sound realm) {act : Act} {next : Dialogue}
    (possible : world.act? realm act = some next) : next.Sound realm := by
  cases act with
  | alone event =>
      obtain ⟨solitary, same⟩ := Option.ite_none_right_eq_some.mp possible
      obtain rfl := Option.some.inj same
      exact sound.alone solitary
  | serve ticket id => exact sound.of_serve? possible
  | answer ticket data => exact sound.of_answer? possible
  | read generation => exact sound.of_read? possible
  | load generation field data => exact sound.of_load? possible

theorem step (sound : world.Sound realm) (act : Act) : (world.step realm act).Sound realm := by
  rw [Dialogue.step]
  cases possible : world.act? realm act with
  | none => exact sound
  | some next => exact sound.act? possible

theorem run (sound : world.Sound realm) (acts : List Act) : (world.run realm acts).Sound realm := by
  induction acts generalizing world with
  | nil => exact sound
  | cons act acts induction => exact induction (sound.step act)

theorem start {desk : Desk} {served : List String} (tended : desk.Tended (.persisted realm))
    (idle : desk.editor.dispatcher.inFlight = ∅)
    (known : ∀ id, .persisted id ∈ desk.view.blocks (.persisted realm) → id ∈ served) :
    (Dialogue.start desk served).Sound realm := by
  have none (ticket : Nat) : (Dialogue.start desk served).request? ticket = none := by
    simp [request?, Dialogue.start, idle]
  exact ⟨tended, by simp [none], by simp [none], by simp [Dialogue.start],
    by simp [Dialogue.start], by simp [Dialogue.start], by simp [Dialogue.start], known,
    by simp [none], by simp [none]⟩

end Sound

end Dialogue

end RealmDesk
