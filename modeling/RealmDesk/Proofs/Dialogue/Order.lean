import RealmDesk.Proofs.Desk.BlockList
import RealmDesk.Proofs.Dialogue.Arrivals

/-!
# The order of saved blocks

A request says behind how many saved blocks the new block goes, counted when it is sent. The server
goes by that number when it handles the request. If it has got a block in front by then that was not
saved yet when the request was sent, the number is too small, and the new block goes in front of it
for good. So desk and server agree on the order of the blocks if and only if every request is
handled in place: its number is that of the blocks in front that the server has at that moment.
-/

namespace RealmDesk

namespace Desk

/-- An event of the editing, besides the answers. -/
def Event.Local : Event → Prop
  | .insert .. | .setEditMode .. | .updateForm .. | .submit .. | .cancel .. | .prune => True
  | _ => False

instance : (event : Event) → Decidable event.Local
  | .insert .. | .setEditMode .. | .updateForm .. | .submit .. | .cancel .. | .prune =>
      .isTrue trivial
  | .navigate .. | .reload | .resolve .. | .complete .. | .dispatch .. | .finish .. | .addChild .. |
    .merge .. | .update .. | .subscribe .. | .unsubscribe .. | .retain .. | .release .. |
    .collectGarbage => .isFalse id

variable {desk : Desk} {event : Event}

theorem Event.Local.solitary (isLocal : event.Local) : event.Solitary := by
  cases event with
  | insert | setEditMode | updateForm | submit | cancel | prune => trivial
  | _ => exact isLocal.elim

theorem Event.Local.edits (isLocal : event.Local) (text : String) :
    Edits (.persisted text) desk event := by
  cases event with
  | submit | cancel => exact nofun
  | insert | setEditMode | updateForm | prune => trivial
  | _ => exact isLocal.elim

theorem standing_step (isLocal : event.Local) {ticket : Nat} {request : SaveRequest}
    (standing : desk.editor.dispatcher.inFlight[ticket]? = some request)
    (bound : ticket ≤ desk.editor.dispatcher.lastTicket) :
    (desk.step event).2.editor.dispatcher.inFlight[ticket]? = some request := by
  have kept {editor : Editor} (same : editor.dispatcher = desk.editor.dispatcher) :
      editor.dispatcher.inFlight[ticket]? = some request := same ▸ standing
  cases event with
  | insert target index kind defaults =>
      exact kept (desk.editor.insert_cases desk.cache target index kind defaults).1
  | setEditMode block on => exact kept (desk.editor.setEditMode_wrote desk.cache block on).2
  | updateForm block values =>
      cases form : desk.editor.form? block with
      | none =>
          simp only [step, Editor.updateForm, form]
          exact standing
      | some present =>
          simp only [step, Editor.updateForm, form]
          exact standing
  | submit block values =>
      rcases desk.editor.submit_cases desk.cache.store block values with
        ⟨-, -, same⟩ | ⟨handed, input, -, sent⟩
      · exact kept same
      · obtain ⟨next, -, later, -⟩ := Dispatcher.dispatch_of_ok sent
        change (desk.editor.submit desk.cache.store block values).2.dispatcher.inFlight[ticket]? = _
        rw [later]
        dsimp only
        rw [Std.ExtTreeMap.getElem?_insert, if_neg]
        · exact standing
        · rw [Std.LawfulEqCmp.compare_eq_iff_eq]
          omega
  | cancel block confirmed => exact kept (desk.editor.cancel_cases desk.cache block confirmed).1
  | prune => exact standing
  | _ => exact isLocal.elim

end Desk

namespace Dialogue

/-- An act of the editing: nothing is loaded, and every answer is one of the server. -/
def Act.Local : Act → Prop
  | .alone event => event.Local
  | .serve .. | .answer .. => True
  | .read _ | .load .. => False

instance : (act : Act) → Decidable act.Local
  | .alone event => inferInstanceAs (Decidable event.Local)
  | .serve .. | .answer .. => .isTrue trivial
  | .read _ | .load .. => .isFalse id

/-- The id by which the server has a block. -/
def name? (world : Dialogue) : RecordId → Option String
  | .persisted id => some id
  | .pending number =>
      (world.handled.find? (·.request.block = .pending number)).map Handling.id

/-- The blocks of the list that the server has, in the order of the list. -/
def known (realm : String) (world : Dialogue) : List String :=
  (world.blocks realm).filterMap world.name?

/-- How many blocks that the server has stand in front of a block of the list. -/
def rank (realm : String) (world : Dialogue) (block : RecordId) : Nat :=
  (((world.blocks realm).takeWhile (· ≠ block)).filterMap world.name?).length

/-- A request that the server handles asks for the place that its block has in the list. -/
def InPlace (realm : String) (world : Dialogue) : Act → Prop
  | .serve ticket id => (world.serve? realm ticket id).isSome →
      ∀ request ∈ world.request? ticket,
        indexIn? realm request = some (world.rank realm request.block)
  | _ => True

instance (realm : String) (world : Dialogue) : (act : Act) → Decidable (InPlace realm world act)
  | .serve ticket id => inferInstanceAs (Decidable ((world.serve? realm ticket id).isSome → _))
  | .alone _ | .answer .. | .read _ | .load .. => .isTrue trivial

/-- Every request is handled in place. -/
def AllInPlace (realm : String) (world : Dialogue) : List Act → Prop
  | [] => True
  | act :: acts => world.InPlace realm act ∧ (world.step realm act).AllInPlace realm acts

instance decidableAllInPlace (realm : String) :
    (world : Dialogue) → (acts : List Act) → Decidable (world.AllInPlace realm acts)
  | _, [] => .isTrue trivial
  | world, act :: acts =>
      have := decidableAllInPlace realm (world.step realm act) acts
      inferInstanceAs (Decidable (_ ∧ _))

/-- What holds as long as nothing is loaded and no request fails on its way. -/
structure Steady (realm : String) (world : Dialogue) : Prop where
  /-- What holds throughout any run. -/
  sound : world.Sound realm
  /-- The realm is there. -/
  stored : (world.desk.view (.persisted realm)).isSome
  /-- No list was loaded. -/
  unloaded : world.loaded = none
  /-- A block that the server has created stays in the list until the answer arrives. -/
  live : ∀ handling ∈ world.handled, handling.request.block ∈ world.blocks realm →
    ∃ ticket, world.request? ticket = some handling.request

variable {realm : String} {world next : Dialogue}

/-! ## What the server has -/

theorem name?_of_forall_ne {number : Nat}
    (unhandled : ∀ handling ∈ world.handled, handling.request.block ≠ .pending number) :
    world.name? (.pending number) = none := by
  rw [name?, Option.map_eq_none_iff, List.find?_eq_none]
  simpa using unhandled

theorem name?_of_handling {handling : Handling} {number : Nat}
    (pending : handling.request.block = .pending number) (served : List String) :
    name? { world with served, handled := handling :: world.handled } handling.request.block =
      some handling.id := by
  simp [name?, pending]

theorem filterMap_name?_of_not_mem {handling : Handling} {blocks : List RecordId}
    (absent : handling.request.block ∉ blocks) (served : List String) :
    blocks.filterMap (name? { world with served, handled := handling :: world.handled }) =
      blocks.filterMap world.name? := by
  refine List.filterMap_congr fun other member => ?_
  cases other with
  | persisted text => rfl
  | pending number =>
      have different : handling.request.block ≠ .pending number := fun same =>
        absent (same ▸ member)
      simp [name?, different]

namespace Steady

theorem listed (steady : world.Steady realm) {ticket : Nat} {request : SaveRequest}
    (standing : world.request? ticket = some request) (creates : (indexIn? realm request).isSome) :
    request.block ∈ world.blocks realm :=
  (steady.sound.waiting steady.stored ticket request standing creates).mpr
    (by simp [Overtaken, steady.unloaded])

/-- What the server has created for a block is what it made of the request in flight. -/
theorem request_eq (steady : world.Steady realm) {ticket : Nat} {request : SaveRequest}
    (standing : world.request? ticket = some request) (creates : (indexIn? realm request).isSome)
    {handling : Handling} (member : handling ∈ world.handled)
    (same : handling.request.block = request.block) : handling.request = request := by
  have listed := steady.listed standing creates
  rw [← same] at listed
  obtain ⟨other, flying⟩ := steady.live handling member listed
  obtain rfl := steady.sound.single other ticket handling.request request flying standing same
  exact Option.some.inj (flying.symm.trans standing)

theorem name?_of_handled (steady : world.Steady realm) {ticket : Nat} {handling : Handling}
    (standing : world.request? ticket = some handling.request)
    (member : handling ∈ world.handled) :
    world.name? handling.request.block = some handling.id := by
  obtain ⟨number, pending, -⟩ := (steady.sound.handled handling member).pending
  rw [pending, name?]
  cases found : world.handled.find? (·.request.block = .pending number) with
  | none => simpa [pending] using List.find?_eq_none.mp found handling member
  | some other =>
      have otherMember := List.mem_of_find?_eq_some found
      have block : other.request.block = .pending number := by simpa using List.find?_some found
      have same := steady.request_eq standing (steady.sound.creates member) otherMember
        (block.trans pending.symm)
      rw [steady.sound.handling_unique otherMember member (.inl same)]
      rfl

/-- What happens at the desk changes nothing that the server has. -/
theorem alone (steady : world.Steady realm) {event : Desk.Event} (isLocal : event.Local) :
    Steady realm { world with desk := (world.desk.step event).2 } ∧
      known realm { world with desk := (world.desk.step event).2 } = world.known realm := by
  have sound := steady.sound.alone isLocal.solitary
  have edits : Desk.Edits (.persisted realm) world.desk event := isLocal.edits realm
  obtain ⟨stored, -⟩ := Desk.follows steady.sound.tended.governed steady.stored edits
  obtain ⟨-, kept, -⟩ := Desk.alone_step isLocal.solitary world.desk realm
  obtain ⟨-, rearranged⟩ := kept stored
  change world.desk.Rearranged (world.blocks realm)
    (blocks realm { world with desk := (world.desk.step event).2 }) at rearranged
  refine ⟨⟨sound, stored, steady.unloaded, fun handling member listed => ?_⟩, ?_⟩
  · obtain ⟨number, pending, bound⟩ := (steady.sound.handled handling member).pending
    rw [pending] at listed
    have old := rearranged.mem_of_pending bound listed
    rw [← pending] at old
    obtain ⟨ticket, flying⟩ := steady.live handling member old
    exact ⟨ticket, Desk.standing_step isLocal flying
      (steady.sound.ticketed ticket handling.request flying).2⟩
  · -- A block that comes or goes has no request that the server has handled.
    rw [known, known]
    generalize blocks realm { world with desk := (world.desk.step event).2 } = later at rearranged
    change later.filterMap world.name? = _
    cases rearranged with
    | same => rfl
    | inserted index within =>
        have nameless : world.name? (.pending (world.desk.cache.store.lastPending + 1)) = none := by
          refine name?_of_forall_ne fun handling member same => ?_
          obtain ⟨number, pending, bound⟩ := (steady.sound.handled handling member).pending
          have equal := RecordId.pending.inj (pending.symm.trans same)
          omega
        obtain ⟨front, back, split, -, inserted⟩ := List.exists_of_modifyTailIdx
          (RecordId.pending (world.desk.cache.store.lastPending + 1) :: ·) within
        rw [List.insertIdx, inserted, split]
        simp [nameless]
    | removed number free =>
        refine filterMap_filter_ne fun listed => name?_of_forall_ne fun handling member same => ?_
        obtain ⟨ticket, flying⟩ := steady.live handling member (same ▸ listed)
        exact Dispatcher.isInFlight_eq_false.mp free ticket handling.request flying same

theorem split (steady : world.Steady realm) {ticket : Nat} {request : SaveRequest}
    (standing : world.request? ticket = some request) (creates : (indexIn? realm request).isSome) :
    ∃ front back, world.blocks realm = front ++ request.block :: back ∧
      request.block ∉ front ∧ request.block ∉ back := by
  obtain ⟨front, back, split, earlier⟩ :=
    List.eq_append_cons_of_mem (steady.listed standing creates)
  refine ⟨front, back, split, earlier, fun later => ?_⟩
  obtain ⟨number, pending, -⟩ := steady.sound.pending_block standing creates
  have once := steady.sound.tended.once number
  change (world.blocks realm).count (.pending number) ≤ 1 at once
  rw [split, ← pending, List.count_append, List.count_cons_self] at once
  have more := List.count_pos_iff.mpr later
  omega

/-- When the server handles a request, it comes to agree with the list if it agreed before and the
request is in place, and not otherwise. -/
theorem of_serve? (steady : world.Steady realm) {ticket : Nat} {id : String}
    (served : world.serve? realm ticket id = some next) :
    next.Steady realm ∧ (next.known realm = next.served ↔
      world.known realm = world.served ∧ world.InPlace realm (.serve ticket id)) := by
  have sound := steady.sound.of_serve? served
  have possible : (world.serve? realm ticket id).isSome := by simp [served]
  obtain ⟨request, index, standing, at?, unhandled, fresh, within, rfl⟩ :=
    serve?_eq_some.mp served
  have creates : (indexIn? realm request).isSome := by simp [at?]
  refine ⟨⟨sound, steady.stored, steady.unloaded, fun handling member listed => ?_⟩, ?_⟩
  · rcases List.mem_cons.mp member with rfl | old
    · exact ⟨ticket, standing⟩
    · exact steady.live handling old listed
  obtain ⟨number, pending, -⟩ := steady.sound.pending_block standing creates
  obtain ⟨front, back, split, notFront, notBack⟩ := steady.split standing creates
  have nameless : world.name? request.block = none := by
    rw [pending]
    refine name?_of_forall_ne fun handling member same => unhandled handling member ?_
    exact steady.request_eq standing creates member (same.trans pending.symm)
  have rank : world.rank realm request.block = (front.filterMap world.name?).length := by
    rw [Dialogue.rank, split, List.takeWhile_append_of_pos]
    · simp
    · intro other member
      simpa using fun same : other = request.block => notFront (same ▸ member)
  have before : world.known realm =
      front.filterMap world.name? ++ back.filterMap world.name? := by
    rw [known, split, List.filterMap_append, List.filterMap_cons_none nameless]
  -- The list stays as it is, but one block of it, which had no name, has one now.
  let handling : Handling := ⟨request, id, world.served.insertIdx index id⟩
  let later : Dialogue := { world with
    served := world.served.insertIdx index id
    handled := handling :: world.handled }
  have named : later.name? request.block = some id := name?_of_handling pending _
  have others {blocks : List RecordId} (absent : handling.request.block ∉ blocks) :
      blocks.filterMap later.name? = blocks.filterMap world.name? :=
    filterMap_name?_of_not_mem absent _
  have after : later.known realm =
      front.filterMap world.name? ++ id :: back.filterMap world.name? := by
    change (world.blocks realm).filterMap later.name? = _
    rw [split, List.filterMap_append, List.filterMap_cons_some named, others notFront,
      others notBack]
  have inPlace : world.InPlace realm (.serve ticket id) ↔
      index = (front.filterMap world.name?).length := by
    simp [InPlace, possible, standing, at?, rank]
  rw [inPlace, before]
  change later.known realm = world.served.insertIdx index id ↔ _
  rw [after]
  exact append_eq_insertIdx_iff within fresh

/-- An answer changes nothing that the server has. -/
theorem of_answer? (steady : world.Steady realm) {ticket : Nat} {data : Json}
    (answered : world.answer? realm ticket data = some next) :
    next.Steady realm ∧ next.known realm = world.known realm ∧ next.served = world.served := by
  have sound := steady.sound.of_answer? answered
  obtain ⟨request, standing, answers, rfl⟩ := answer?_eq_some.mp answered
  obtain ⟨outcome, middle, told, heard⟩ := steady.sound.heard standing answers
  have dispatcher := told.dispatcher
  clear told
  generalize (world.desk.step (.complete ticket (.ok data))).2 = desk at *
  have flies {number : Nat} {other : SaveRequest} (flying : world.request? number = some other)
      (different : other ≠ request) : desk.editor.dispatcher.inFlight[number]? = some other := by
    rw [dispatcher]
    dsimp only
    rw [Std.ExtTreeMap.getElem?_erase, if_neg]
    · exact flying
    · rw [Std.LawfulEqCmp.compare_eq_iff_eq]
      rintro rfl
      exact different (Option.some.inj (flying.symm.trans standing))
  cases heard with
  | kept outcome stored same failed =>
      have lists : blocks realm { world with desk } = world.blocks realm := same
      refine ⟨⟨sound, stored.mpr steady.stored, steady.unloaded,
        fun handling member listed => ?_⟩, by rw [known, known, lists]; rfl, rfl⟩
      rw [lists] at listed
      obtain ⟨number, flying⟩ := steady.live handling member listed
      refine ⟨number, flies flying fun equal => ?_⟩
      -- A new block of the realm would have failed, although the realm is there.
      obtain ⟨-, absent⟩ := failed (equal ▸ steady.sound.creates member)
      simpa [absent] using steady.stored
  | renamed handling member same before after replaced =>
      subst same
      have creates := steady.sound.creates member
      obtain ⟨front, back, split, notFront, notBack⟩ := steady.split standing creates
      have named := steady.name?_of_handled standing member
      have lists : blocks realm { world with desk } = front ++ .persisted handling.id :: back := by
        change desk.view.blocks (.persisted realm) = _
        rw [replaced, split, List.replace_append_right notFront, List.replace_cons_self]
      refine ⟨⟨sound, after, steady.unloaded, fun earlier dealt listed => ?_⟩, ?_, rfl⟩
      · rw [lists, List.mem_append, List.mem_cons] at listed
        obtain ⟨number, pending, -⟩ := (steady.sound.handled earlier dealt).pending
        have old : earlier.request.block ∈ front ∨ earlier.request.block ∈ back :=
          listed.imp_right (·.resolve_left (by simp [pending]))
        obtain ⟨other, flying⟩ := steady.live earlier dealt (by
          rw [split]
          exact List.mem_append.mpr (old.imp_right (List.mem_cons_of_mem _)))
        refine ⟨other, flies flying fun equal => ?_⟩
        rw [equal] at old
        exact old.elim notFront notBack
      · rw [known, known, lists, split, List.filterMap_append, List.filterMap_append,
          List.filterMap_cons_some named]
        rfl

/-! ## Runs -/

theorem step (steady : world.Steady realm) {act : Act} (isLocal : act.Local) :
    (world.step realm act).Steady realm ∧
      ((world.step realm act).known realm = (world.step realm act).served ↔
        world.known realm = world.served ∧ world.InPlace realm act) := by
  rw [Dialogue.step]
  cases act with
  | alone event =>
      obtain ⟨later, known⟩ := steady.alone isLocal
      rw [act?, if_pos isLocal.solitary, Option.getD_some, known]
      exact ⟨later, (and_iff_left trivial).symm⟩
  | serve ticket id =>
      rw [act?]
      cases served : world.serve? realm ticket id with
      | none => exact ⟨steady, by simp [InPlace, served]⟩
      | some next => exact steady.of_serve? served
  | answer ticket data =>
      rw [act?]
      cases answered : world.answer? realm ticket data with
      | none => exact ⟨steady, (and_iff_left trivial).symm⟩
      | some next =>
          obtain ⟨later, known, served⟩ := steady.of_answer? answered
          rw [Option.getD_some, known, served]
          exact ⟨later, (and_iff_left trivial).symm⟩
  | read | load => exact isLocal.elim

theorem run (steady : world.Steady realm) {acts : List Act} (isLocal : ∀ act ∈ acts, act.Local) :
    (world.run realm acts).Steady realm ∧
      ((world.run realm acts).known realm = (world.run realm acts).served ↔
        world.known realm = world.served ∧ world.AllInPlace realm acts) := by
  induction acts generalizing world with
  | nil => exact ⟨steady, (and_iff_left trivial).symm⟩
  | cons act acts induction =>
      obtain ⟨later, agree⟩ := steady.step (isLocal act List.mem_cons_self)
      obtain ⟨last, agreeLast⟩ :=
        induction later fun other member => isLocal other (List.mem_cons_of_mem _ member)
      refine ⟨last, agreeLast.trans ?_⟩
      rw [agree, AllInPlace, and_assoc]

/-- Once every request is answered, the server has the saved blocks of the list. -/
theorem known_of_quiet (steady : world.Steady realm)
    (quiet : ∀ ticket request, world.request? ticket = some request →
      indexIn? realm request = none) :
    world.known realm = (world.blocks realm).filterMap RecordId.persisted? := by
  refine List.filterMap_congr fun id member => ?_
  cases id with
  | persisted text => rfl
  | pending number =>
      refine name?_of_forall_ne fun handling dealt same => ?_
      obtain ⟨ticket, flying⟩ := steady.live handling dealt (same ▸ member)
      have creates := steady.sound.creates dealt
      simp [quiet ticket handling.request flying] at creates

end Steady

/-- Desk and server that agree on the saved blocks of a realm agree again, when every request that
creates a block of the realm is answered, if and only if every request was handled in place. -/
theorem agree_iff_allInPlace {desk : Desk} {served : List String} {record : Record}
    (tended : desk.Tended (.persisted realm))
    (found : desk.cache.store.read (.persisted realm) = some record)
    (idle : desk.editor.dispatcher.inFlight = ∅)
    (agree : (record.links Field.blocks).filterMap RecordId.persisted? = served)
    {acts : List Act} (isLocal : ∀ act ∈ acts, act.Local) :
    let world := (start desk served).run realm acts
    (∀ ticket request, world.request? ticket = some request → indexIn? realm request = none) →
      ((world.blocks realm).filterMap RecordId.persisted? = world.served ↔
        (start desk served).AllInPlace realm acts) := by
  intro world quiet
  obtain ⟨shown, listed⟩ := Desk.blocks_eq_links found
  have begun : (start desk served).Steady realm := by
    refine ⟨.start tended idle fun id member => ?_, by simp [start, shown], rfl, by simp [start]⟩
    rw [listed] at member
    exact agree ▸ List.mem_filterMap.mpr ⟨_, member, rfl⟩
  have same : (start desk served).known realm = (start desk served).served := by
    rw [begun.known_of_quiet fun ticket request standing => ?_]
    · exact (congrArg (List.filterMap RecordId.persisted?) listed).trans agree
    · simp [request?, start, idle] at standing
  obtain ⟨steady, agrees⟩ := begun.run isLocal
  rw [← steady.known_of_quiet quiet]
  exact agrees.trans (and_iff_right same)

/-- Two new neighbours are sent together, the one behind first; both are handled in place. -/
theorem agree_of_front_last :
    let block (id : String) : Json := .obj [("id", .str id), ("__typename", .str "TitleBlock")]
    let page (field : String) (blocks : List Json) : Json := .obj [(field,
      .obj [("id", .str "r"), ("__typename", .str "Realm"), ("blocks", .arr blocks)])]
    let loading : List Desk.Event :=
      [.navigate (Place.realmContent "/").url, .resolve 1 (.ok (page "realm" []))]
    let acts : List Act := [.alone (.insert (.persisted "r") 0 .title ∅),
      .alone (.insert (.persisted "r") 1 .title ∅), .alone (.submit (.pending 2) (.title "y")),
      .alone (.submit (.pending 1) (.title "x")), .serve 1 "b", .serve 2 "a",
      .answer 2 (page "addTitleBlock" [block "a", block "b"]),
      .answer 1 (page "addTitleBlock" [block "b"])]
    let desk := (Desk.start .standard).run loading
    let world := (start desk []).run "r" acts
    ∃ record, desk.Tended (.persisted "r") ∧
      desk.cache.store.read (.persisted "r") = some record ∧
      desk.editor.dispatcher.inFlight = ∅ ∧
      (record.links Field.blocks).filterMap RecordId.persisted? = [] ∧
      (∀ act ∈ acts, act.Local) ∧
      (∀ ticket request, world.request? ticket = some request →
        indexIn? "r" request = none) ∧
      (start desk []).AllInPlace "r" acts ∧ world.served = ["a", "b"] ∧
      (world.blocks "r").filterMap RecordId.persisted? = world.served := by
  intro block page loading acts desk world
  have session : ∀ event ∈ loading, event.InSession fun _ => True := by
    simp [loading, Desk.Event.InSession]
  have tended : desk.Tended (.persisted "r") :=
    (Desk.tended_start .standard _).turns (Desk.turns_run session _)
  let record : Record := ⟨"Realm", FieldMap.ofList [(Field.blocks, .links [])]⟩
  have found : desk.cache.store.read (.persisted "r") = some record := by decide +kernel
  have idle : desk.editor.dispatcher.inFlight = ∅ := rfl
  have agree : (record.links Field.blocks).filterMap RecordId.persisted? = [] := by decide +kernel
  have isLocal : ∀ act ∈ acts, act.Local := by decide +kernel
  have empty : world.desk.editor.dispatcher.inFlight.isEmpty := by decide +kernel
  have quiet : ∀ ticket request, world.request? ticket = some request →
      indexIn? "r" request = none := by
    intro ticket request standing
    rw [request?, Std.ExtTreeMap.isEmpty_iff.mp empty] at standing
    simp at standing
  have inPlace : (start desk []).AllInPlace "r" acts := by decide +kernel
  exact ⟨record, tended, found, idle, agree, isLocal, quiet, inPlace, by decide +kernel,
    (agree_iff_allInPlace tended found idle agree isLocal quiet).mpr inPlace⟩

/-- Two new neighbours are sent together, and the server handles the one in front first: it puts the
other one in front of it, at the index counted when neither was saved. -/
theorem not_agree_of_front_first :
    let block (id : String) : Json := .obj [("id", .str id), ("__typename", .str "TitleBlock")]
    let page (field : String) (blocks : List Json) : Json := .obj [(field,
      .obj [("id", .str "r"), ("__typename", .str "Realm"), ("blocks", .arr blocks)])]
    let loading : List Desk.Event :=
      [.navigate (Place.realmContent "/").url, .resolve 1 (.ok (page "realm" []))]
    let acts : List Act := [.alone (.insert (.persisted "r") 0 .title ∅),
      .alone (.insert (.persisted "r") 1 .title ∅), .alone (.submit (.pending 1) (.title "x")),
      .alone (.submit (.pending 2) (.title "y")), .serve 1 "a", .serve 2 "b",
      .answer 1 (page "addTitleBlock" [block "a"]),
      .answer 2 (page "addTitleBlock" [block "b", block "a"])]
    let desk := (Desk.start .standard).run loading
    let world := (start desk []).run "r" acts
    (desk.cache.store.read (.persisted "r")).map (·.links Field.blocks) = some [] ∧
      (∀ act ∈ acts, act.Local) ∧ world.desk.editor.dispatcher.inFlight.isEmpty ∧
      (world.desk.cache.store.read (.persisted "r")).map (·.links Field.blocks) =
        some [.persisted "a", .persisted "b"] ∧
      world.served = ["b", "a"] := by
  decide +kernel

end Dialogue

end RealmDesk
