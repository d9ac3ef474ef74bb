import Mathlib.Data.List.Nodup
import RealmDesk.Proofs.Dialogue.Arrivals
import RealmDesk.Proofs.Record.Slots

/-!
# Saved blocks on the page

A new block that was saved stands in the list of its realm once, with the id of the server instead
of the pending one, unless the page was loaded while the request was in flight with a list that the
server had read before it handled the request. The loaded list has taken the place of the slot then,
and the block stays away until the page is loaded again.
-/

namespace RealmDesk

namespace Dialogue

/-- No list has an id twice. -/
structure Distinct (realm : String) (world : Dialogue) : Prop where
  /-- The list of the server. -/
  served : world.served.Nodup
  /-- What was read of it. -/
  readings : ∀ reading ∈ world.readings, reading.2.Nodup
  /-- The list of the desk. -/
  blocks : (world.blocks realm).Nodup

variable {realm : String} {world next : Dialogue}

/-- Neither is listed twice: a pending id whose request is in flight, and the id that the server
gave. -/
theorem Sound.unlisted (sound : world.Sound realm)
    (stored : (world.desk.view (.persisted realm)).isSome) {ticket : Nat} {handling : Handling}
    (standing : world.request? ticket = some handling.request) (member : handling ∈ world.handled)
    (listed : handling.request.block ∈ world.blocks realm) :
    .persisted handling.id ∉ world.blocks realm := by
  intro arrived
  obtain ⟨load, loaded, overtaken, -⟩ :=
    (sound.arrived stored ticket handling.request standing handling member rfl).mp arrived
  exact (sound.waiting stored ticket handling.request standing (sound.creates member)).mp listed
    ⟨load, loaded, overtaken⟩

namespace Distinct

theorem alone (distinct : world.Distinct realm) (sound : world.Sound realm)
    {event : Desk.Event} (solitary : event.Solitary) :
    Distinct realm { world with desk := (world.desk.step event).2 } := by
  refine ⟨distinct.served, distinct.readings, ?_⟩
  obtain ⟨-, kept, -⟩ := Desk.alone_step solitary world.desk realm
  change ((world.desk.step event).2.view.blocks (.persisted realm)).Nodup
  cases present : (world.desk.step event).2.view (.persisted realm) with
  | none => simp [View.blocks, present]
  | some record =>
      obtain ⟨-, rearranged⟩ := kept (by simp [present])
      generalize (world.desk.step event).2.view.blocks (.persisted realm) = later at rearranged ⊢
      cases rearranged with
      | same => exact distinct.blocks
      | inserted index within =>
          exact nodup_insertIdx within distinct.blocks (sound.tended.fresh (.inl rfl))
      | removed number free => exact distinct.blocks.filter _

theorem of_serve? (distinct : world.Distinct realm) {ticket : Nat} {id : String}
    (served : world.serve? realm ticket id = some next) : next.Distinct realm := by
  obtain ⟨request, index, -, -, -, fresh, within, rfl⟩ := serve?_eq_some.mp served
  exact ⟨nodup_insertIdx within distinct.served fresh, distinct.readings, distinct.blocks⟩

theorem of_answer? (distinct : world.Distinct realm) (sound : world.Sound realm) {ticket : Nat}
    {data : Json} (answered : world.answer? realm ticket data = some next) :
    next.Distinct realm := by
  obtain ⟨request, standing, answers, rfl⟩ := answer?_eq_some.mp answered
  refine ⟨distinct.served, distinct.readings, ?_⟩
  obtain ⟨outcome, middle, -, heard⟩ := sound.heard standing answers
  cases heard with
  | kept outcome stored same failed =>
      rw [Dialogue.blocks, same]
      exact distinct.blocks
  | renamed handling member same before after replaced =>
      subst same
      rw [Dialogue.blocks, replaced]
      by_cases listed : handling.request.block ∈ world.blocks realm
      · exact nodup_replace distinct.blocks (sound.unlisted before standing member listed)
      · rw [List.replace_of_not_mem listed]
        exact distinct.blocks

theorem of_read? (distinct : world.Distinct realm) {generation : Nat}
    (read : world.read? generation = some next) : next.Distinct realm := by
  obtain ⟨-, same⟩ := Option.ite_none_right_eq_some.mp read
  obtain rfl := Option.some.inj same
  refine ⟨distinct.served, fun reading member => ?_, distinct.blocks⟩
  rcases List.mem_cons.mp member with rfl | old
  · exact distinct.served
  · exact distinct.readings reading old

theorem of_load? (distinct : world.Distinct realm) {generation : Nat} {field : String}
    {data : Json} (load : world.load? realm generation field data = some next) :
    next.Distinct realm := by
  obtain ⟨list, reading, loads, -⟩ := loads_of_load? load
  cases loads with
  | stale desk cache editor =>
      have same : Dialogue.blocks realm { world with desk } = world.blocks realm := by
        rw [Dialogue.blocks, Dialogue.blocks, Desk.view, cache]
      exact ⟨distinct.served, distinct.readings, same ▸ distinct.blocks⟩
  | applied desk editor lastPending loaded =>
      refine ⟨distinct.served, distinct.readings, ?_⟩
      change (desk.view.blocks (.persisted realm)).Nodup
      cases present : desk.view (.persisted realm) with
      | none => simp [View.blocks, present]
      | some record =>
          rw [loaded (by simp [present])]
          exact List.Nodup.map (fun _ _ => RecordId.persisted.inj) (distinct.readings _ reading)

theorem step (distinct : world.Distinct realm) (sound : world.Sound realm) (act : Act) :
    (world.step realm act).Distinct realm := by
  rw [Dialogue.step]
  cases possible : world.act? realm act with
  | none => exact distinct
  | some next =>
      cases act with
      | alone event =>
          obtain ⟨solitary, same⟩ := Option.ite_none_right_eq_some.mp possible
          obtain rfl := Option.some.inj same
          exact distinct.alone sound solitary
      | serve ticket id => exact distinct.of_serve? possible
      | answer ticket data => exact distinct.of_answer? sound possible
      | read generation => exact distinct.of_read? possible
      | load generation field data => exact distinct.of_load? possible

theorem run (distinct : world.Distinct realm) (sound : world.Sound realm) (acts : List Act) :
    (world.run realm acts).Distinct realm := by
  induction acts generalizing world with
  | nil => exact distinct
  | cons act acts induction => exact induction (distinct.step sound act) (sound.step act)

end Distinct

theorem shown_iff {request : SaveRequest} {id : String} (overtaken : world.Overtaken request) :
    world.Shown request id ↔
      ∀ load ∈ world.loaded, request.ticket ≤ load.1 →
        RecordId.persisted id ∈ load.2.map RecordId.persisted := by
  obtain ⟨load, loaded, bound⟩ := overtaken
  simp only [Shown, Option.mem_def.mp loaded, Option.mem_some_iff]
  simp [bound]

/-- A new block that takes the id of the server is on the page, unless the page was loaded since the
request was sent with a list that did not have it. -/
theorem onPage_iff (sound : world.Sound realm) (distinct : world.Distinct realm)
    (stored : (world.desk.view (.persisted realm)).isSome) {ticket : Nat} {handling : Handling}
    (standing : world.request? ticket = some handling.request)
    (member : handling ∈ world.handled) :
    let blocks := (world.blocks realm).replace handling.request.block (.persisted handling.id)
    (blocks.count (.persisted handling.id) = 1 ∧ handling.request.block ∉ blocks) ↔
      ∀ load ∈ world.loaded, handling.request.ticket ≤ load.1 →
        RecordId.persisted handling.id ∈ load.2.map RecordId.persisted := by
  intro blocks
  obtain ⟨number, pending, -⟩ := (sound.handled handling member).pending
  have waiting := sound.waiting stored ticket handling.request standing (sound.creates member)
  have arrived := sound.arrived stored ticket handling.request standing handling member rfl
  by_cases overtaken : world.Overtaken handling.request
  · -- The slot went with the list that the loaded one replaced, so the list stays as it is.
    have unlisted : handling.request.block ∉ world.blocks realm :=
      fun listed => waiting.mp listed overtaken
    have same : blocks = world.blocks realm := List.replace_of_not_mem unlisted
    rw [same, ← shown_iff overtaken, ← arrived]
    refine ⟨fun once => ?_, fun listed =>
      ⟨List.count_eq_one_of_mem distinct.blocks listed, unlisted⟩⟩
    exact List.count_pos_iff.mp (Nat.lt_of_lt_of_eq Nat.one_pos once.1.symm)
  · have listed := waiting.mpr overtaken
    have fresh := sound.unlisted stored standing member listed
    have nodup : blocks.Nodup := nodup_replace distinct.blocks fresh
    refine ⟨fun _ load loaded bound => absurd ⟨load, loaded, bound⟩ overtaken,
      fun _ => ⟨List.count_eq_one_of_mem nodup ?_, fun remains => ?_⟩⟩
    · obtain ⟨front, back, split, earlier⟩ := List.eq_append_cons_of_mem listed
      change _ ∈ (world.blocks realm).replace _ _
      rw [split, List.replace_append_right earlier, List.replace_cons_self]
      simp
    · have once : (world.blocks realm).count handling.request.block ≤ 1 :=
        List.nodup_iff_count_le_one.mp distinct.blocks _
      have different : RecordId.persisted handling.id ≠ handling.request.block := by simp [pending]
      rcases mem_of_mem_replace once different remains with same | ⟨other, -⟩
      · exact different same.symm
      · exact other rfl

/-- After any run, a new block that was saved stands in the list of its realm exactly once, and its
pending id does not, if and only if the page was not loaded since the request was sent with a list
that did not have the block. -/
theorem saved_on_page_iff (table : RouteTable) {served : List String} (distinct : served.Nodup)
    (acts : List Act) {ticket index : Nat} {request : SaveRequest} {data : Json} {next : Dialogue}
    {previous block : RecordId} :
    let world := (start (.start table) served).run realm acts
    world.request? ticket = some request → indexIn? realm request = some index →
      world.answer? realm ticket data = some next →
      world.outcome? ticket data = some (.saved previous block) →
      (((next.blocks realm).count block = 1 ∧ previous ∉ next.blocks realm) ↔
        ∀ load ∈ world.loaded, ticket ≤ load.1 → block ∈ load.2.map RecordId.persisted) := by
  intro world standing creates answered saved
  have empty : (Desk.start table).view.blocks (.persisted realm) = [] := rfl
  have begun : (start (.start table) served).Sound realm :=
    .start (Desk.tended_start table _) rfl (by simp [empty])
  have apart : (start (.start table) served).Distinct realm :=
    ⟨distinct, by simp [start], by simp [start, blocks, empty]⟩
  have sound : world.Sound realm := begun.run acts
  have nodup : world.Distinct realm := apart.run begun acts
  clear_value world
  obtain ⟨other, found, answers, rfl⟩ := answer?_eq_some.mp answered
  obtain rfl : request = other := by simpa [standing] using found
  obtain ⟨outcome, middle, told, heard⟩ := sound.heard standing answers
  obtain rfl : outcome = .saved previous block := by
    rw [outcome?, told.told] at saved
    exact Option.some.inj saved
  cases heard with
  | kept outcome stored same failed =>
      obtain ⟨⟨error, failure⟩, -⟩ := failed (by simp [creates])
      cases failure
  | renamed handling member same before after replaced =>
      subst same
      have own := (sound.ticketed ticket handling.request standing).1
      have onPage := onPage_iff sound nodup before standing member
      rw [own] at onPage
      rw [blocks, replaced]
      exact onPage

/-- The page is loaded again while a new block is being saved, with the block on it. -/
theorem saved_on_page_of_late_reading :
    let block : Json := .obj [("id", .str "b"), ("__typename", .str "TitleBlock")]
    let page (field : String) (blocks : List Json) : Json := .obj [(field,
      .obj [("id", .str "r"), ("__typename", .str "Realm"), ("blocks", .arr blocks)])]
    let acts : List Act := [.alone (.navigate (Place.realmContent "/").url), .read 1,
      .load 1 "realm" (page "realm" []), .alone (.insert (.persisted "r") 0 .title ∅),
      .alone (.submit (.pending 1) (.title "x")), .alone .reload, .serve 1 "b", .read 2,
      .load 2 "realm" (page "realm" [block])]
    let world := (start (.start .standard) []).run "r" acts
    ∃ request next, world.request? 1 = some request ∧ indexIn? "r" request = some 0 ∧
      world.answer? "r" 1 (page "addTitleBlock" [block]) = some next ∧
      world.outcome? 1 (page "addTitleBlock" [block]) =
        some (.saved (.pending 1) (.persisted "b")) ∧
      world.loaded = some (1, ["b"]) ∧
      (next.blocks "r").count (.persisted "b") = 1 ∧ .pending 1 ∉ next.blocks "r" := by
  intro block page acts world
  let request : SaveRequest := ⟨1, .pending 1, .create "r" 0 (.title "x")⟩
  have standing : world.request? 1 = some request := by decide +kernel
  have possible : (world.answer? "r" 1 (page "addTitleBlock" [block])).isSome := by decide +kernel
  obtain ⟨next, answered⟩ := Option.isSome_iff_exists.mp possible
  have saved : world.outcome? 1 (page "addTitleBlock" [block]) =
      some (.saved (.pending 1) (.persisted "b")) := by decide +kernel
  have loaded : world.loaded = some (1, ["b"]) := by decide +kernel
  refine ⟨request, next, standing, rfl, answered, saved, loaded,
    (saved_on_page_iff .standard List.nodup_nil acts standing rfl answered saved).mpr ?_⟩
  decide +kernel

/-- The page is loaded again while a new block is being saved, without the block, although the
server has handled the request by then: it had read the list before. -/
theorem not_saved_on_page_of_early_reading :
    let block : Json := .obj [("id", .str "b"), ("__typename", .str "TitleBlock")]
    let page (field : String) (blocks : List Json) : Json := .obj [(field,
      .obj [("id", .str "r"), ("__typename", .str "Realm"), ("blocks", .arr blocks)])]
    let acts : List Act := [.alone (.navigate (Place.realmContent "/").url), .read 1,
      .load 1 "realm" (page "realm" []), .alone (.insert (.persisted "r") 0 .title ∅),
      .alone (.submit (.pending 1) (.title "x")), .alone .reload, .read 2, .serve 1 "b",
      .load 2 "realm" (page "realm" [])]
    let world := (start (.start .standard) []).run "r" acts
    world.loaded = some (1, []) ∧
      world.outcome? 1 (page "addTitleBlock" [block]) =
        some (.saved (.pending 1) (.persisted "b")) ∧
      (world.answer? "r" 1 (page "addTitleBlock" [block])).map (fun next =>
        (next.served, (next.desk.cache.store.read (.persisted "r")).map (·.links Field.blocks))) =
          some (["b"], some []) := by
  decide +kernel

end Dialogue

end RealmDesk
