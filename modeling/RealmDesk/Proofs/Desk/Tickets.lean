import RealmDesk.Proofs.Desk.Handling
import RealmDesk.Proofs.Desk.Turns

/-!
# Tickets

That a block is being saved is kept twice: in the table of the requests in flight, and in the form
of the block. Both agree, whatever happens to the forms and whatever others do to the records in
between. A ticket is issued once and settled once at most.
-/

namespace RealmDesk

namespace Desk

/-- The desk after some events, each of which finds the cache that it stands with. -/
def runAmong (desk : Desk) : List (Cache × Event) → Desk
  | [] => desk
  | (cache, event) :: moves => runAmong (step { desk with cache } event).2 moves

/-- What the events of such a run come to. -/
def traceAmong (desk : Desk) : List (Cache × Event) → List (Event × Outcome)
  | [] => []
  | (cache, event) :: moves =>
      let (outcome, after) := step { desk with cache } event
      (event, outcome) :: after.traceAmong moves

/-- The tickets that the editor issued. -/
def issued (history : List (Event × Outcome)) : List Nat :=
  history.filterMap fun entry => entry.2.issued?

/-- The tickets of the editor that were settled. -/
def settled (history : List (Event × Outcome)) : List Nat :=
  history.filterMap fun entry => entry.1.settled? entry.2

/-- The editor and its history agree on the requests in flight. -/
structure Booked (editor : Editor) (history : List (Event × Outcome)) : Prop where
  /-- The last ticket is the greatest one. -/
  counted : ∀ ticket ∈ issued history, ticket ≤ editor.dispatcher.lastTicket
  /-- No ticket was issued twice. -/
  fresh : (issued history).Nodup
  /-- A ticket that was settled was issued. -/
  known : ∀ ticket ∈ settled history, ticket ∈ issued history
  /-- No ticket was settled twice. -/
  once : (settled history).Nodup
  /-- The tickets in flight are those that were issued and not settled. -/
  standing : ∀ ticket : Nat, (editor.dispatcher.inFlight[ticket]?).isSome ↔
    ticket ∈ issued history ∧ ticket ∉ settled history
  /-- A block has one request in flight at most. -/
  alone : ∀ (ticket other : Nat) (request second : SaveRequest),
    editor.dispatcher.inFlight[ticket]? = some request →
      editor.dispatcher.inFlight[other]? = some second →
        request.block = second.block → ticket = other
  /-- A form that waits for a ticket waits for a request of its block. -/
  busy : ∀ (block : RecordId) (form : BlockForm) (ticket : Nat),
    editor.form? block = some form → form.inFlight = some ticket →
      ∃ request, editor.dispatcher.inFlight[ticket]? = some request ∧ request.block = block

namespace Booked

variable {editor after : Editor} {history : List (Event × Outcome)} {event : Event}
  {outcome : Outcome}

theorem start : Booked {} [] where
  counted := nofun
  fresh := .nil
  known := nofun
  once := .nil
  standing ticket := by simp [issued]
  alone ticket other request second found := by simp at found
  busy block form ticket present := by simp [Editor.form?] at present

theorem issued_snoc (history : List (Event × Outcome)) (event : Event) (outcome : Outcome) :
    issued (history ++ [(event, outcome)]) = issued history ++ outcome.issued?.toList := by
  rw [issued, List.filterMap_append]
  cases named : outcome.issued? <;> simp [issued, named]

theorem settled_snoc (history : List (Event × Outcome)) (event : Event) (outcome : Outcome) :
    settled (history ++ [(event, outcome)]) =
      settled history ++ (event.settled? outcome).toList := by
  rw [settled, List.filterMap_append]
  cases named : event.settled? outcome <;> simp [settled, named]

/-- What leaves the requests alone keeps the books, unless a form waits for another ticket than
before. -/
theorem of_dispatcher_eq (booked : Booked editor history)
    (issues : outcome.issued? = none) (settles : event.settled? outcome = none)
    (same : after.dispatcher = editor.dispatcher)
    (older : ∀ (block : RecordId) (form : BlockForm) (ticket : Nat),
      after.form? block = some form → form.inFlight = some ticket →
        ∃ old, editor.form? block = some old ∧ old.inFlight = some ticket) :
    Booked after (history ++ [(event, outcome)]) := by
  have noIssue : issued (history ++ [(event, outcome)]) = issued history := by
    simp [issued_snoc, issues]
  have noSettlement : settled (history ++ [(event, outcome)]) = settled history := by
    simp [settled_snoc, settles]
  refine ⟨?_, ?_, ?_, ?_, ?_, ?_, fun block form ticket present waiting => ?_⟩
  · simpa only [noIssue, same] using booked.counted
  · simpa only [noIssue] using booked.fresh
  · simpa only [noIssue, noSettlement] using booked.known
  · simpa only [noSettlement] using booked.once
  · simpa only [noIssue, noSettlement, same] using booked.standing
  · simpa only [same] using booked.alone
  · obtain ⟨old, present, waiting⟩ := older block form ticket present waiting
    rw [same]
    exact booked.busy block old ticket present waiting

/-- A form is set that waits for no other ticket than the form in its place did. -/
theorem of_setForm (booked : Booked editor history) (issues : outcome.issued? = none)
    (settles : event.settled? outcome = none) {block : RecordId} {form : BlockForm}
    (older : ∀ ticket, form.inFlight = some ticket →
      ∃ old, editor.form? block = some old ∧ old.inFlight = some ticket) :
    Booked (editor.setForm block form) (history ++ [(event, outcome)]) := by
  refine booked.of_dispatcher_eq issues settles rfl fun other found ticket present waiting => ?_
  rw [Editor.form?_setForm] at present
  split at present
  case isTrue same =>
    obtain rfl := Option.some.inj present
    exact same ▸ older ticket waiting
  case isFalse => exact ⟨found, present, waiting⟩

theorem of_dropForm (booked : Booked editor history) (issues : outcome.issued? = none)
    (settles : event.settled? outcome = none) (block : RecordId) :
    Booked (editor.dropForm block) (history ++ [(event, outcome)]) := by
  refine booked.of_dispatcher_eq issues settles rfl fun other form ticket present waiting => ?_
  rw [Editor.form?_dropForm] at present
  split at present
  case isTrue => cases present
  case isFalse => exact ⟨form, present, waiting⟩

theorem sent {store : Store} {block : RecordId} {values : BlockValues} {input : BlockInput}
    {request : SaveRequest} {dispatcher : Dispatcher} {form : BlockForm}
    (booked : Booked editor history)
    (dispatched : editor.dispatcher.dispatch store block input = .ok (request, dispatcher))
    (waits : form.inFlight = some request.ticket) :
    Booked ({ editor with dispatcher }.setForm block form)
      (history ++ [(.submit block values, .submitted (.ok request))]) := by
  obtain ⟨numbered, sameBlock, rfl, free, -, -⟩ := Dispatcher.dispatch_of_ok dispatched
  rw [Dispatcher.isInFlight_eq_false] at free
  have new : request.ticket ∉ issued history := by
    intro old
    have bound := booked.counted _ old
    omega
  have unsettled : request.ticket ∉ settled history := fun old => new (booked.known _ old)
  have issue : issued (history ++ [(.submit block values, .submitted (.ok request))]) =
      issued history ++ [request.ticket] := issued_snoc ..
  have noSettlement : settled (history ++ [(.submit block values, .submitted (.ok request))]) =
      settled history := by
    simp [settled_snoc, Event.settled?]
  have found (ticket : Nat) : (editor.dispatcher.inFlight.insert request.ticket request)[ticket]? =
      if request.ticket = ticket then some request else editor.dispatcher.inFlight[ticket]? := by
    simp [Std.ExtTreeMap.getElem?_insert]
  constructor
  case counted =>
    intro ticket member
    rw [issue, List.mem_append, List.mem_singleton] at member
    change ticket ≤ request.ticket
    rcases member with old | same
    · have bound := booked.counted ticket old
      omega
    · exact Nat.le_of_eq same
  case fresh =>
    rw [issue]
    exact List.nodup_append.mpr ⟨booked.fresh, by simp, fun ticket old other same => by
      rintro rfl
      exact new (List.mem_singleton.mp same ▸ old)⟩
  case known =>
    intro ticket member
    rw [noSettlement] at member
    rw [issue]
    exact List.mem_append_left _ (booked.known ticket member)
  case once => simpa only [noSettlement] using booked.once
  case standing =>
    intro ticket
    change ((editor.dispatcher.inFlight.insert request.ticket request)[ticket]?).isSome ↔ _
    rw [found, issue, noSettlement, List.mem_append, List.mem_singleton]
    by_cases same : request.ticket = ticket
    · subst same
      simp [unsettled]
    · rw [if_neg same, booked.standing]
      simp [Ne.symm same]
  case alone =>
    intro ticket other first second standing later sameBlocks
    change (editor.dispatcher.inFlight.insert request.ticket request)[ticket]? = _ at standing
    change (editor.dispatcher.inFlight.insert request.ticket request)[other]? = _ at later
    rw [found] at standing later
    -- A request for the same block was not in flight before.
    split at standing <;> split at later
    · omega
    · obtain rfl := Option.some.inj standing
      exact absurd (sameBlocks.symm.trans sameBlock) (free other second later)
    · obtain rfl := Option.some.inj later
      exact absurd (sameBlocks.trans sameBlock) (free ticket first standing)
    · exact booked.alone ticket other first second standing later sameBlocks
  case busy =>
    intro other held ticket present waiting
    change ∃ asked, (editor.dispatcher.inFlight.insert request.ticket request)[ticket]? = _ ∧ _
    rw [Editor.form?_setForm] at present
    rw [found]
    split at present
    case isTrue same =>
      obtain rfl := Option.some.inj present
      rw [waits, Option.some.injEq] at waiting
      exact ⟨request, if_pos waiting, sameBlock.trans same⟩
    case isFalse =>
      obtain ⟨asked, standing, itsBlock⟩ := booked.busy other held ticket present waiting
      have older : request.ticket ≠ ticket := by
        rintro rfl
        exact new ((booked.standing _).mp (by simp [standing])).1
      exact ⟨asked, by rw [if_neg older, standing], itsBlock⟩

/-- A request whose answer arrives is booked out, provided that no form waits for it any longer and
no form waits for another ticket than before. -/
theorem settle {ticket : Nat} {result : ApiResult Json} {request : SaveRequest}
    {became : SaveOutcome} (booked : Booked editor history)
    (standing : editor.dispatcher.inFlight[ticket]? = some request)
    (same : after.dispatcher = (editor.settle ticket).dispatcher)
    (older : ∀ (block : RecordId) (form : BlockForm) (number : Nat),
      after.form? block = some form → form.inFlight = some number →
        block ≠ request.block ∧ ∃ old, editor.form? block = some old ∧ old.inFlight = some number) :
    Booked after (history ++ [(.complete ticket result, .completed (.ok became))]) := by
  have noIssue : issued (history ++ [(.complete ticket result, .completed (.ok became))]) =
      issued history := by
    simp [issued_snoc, Outcome.issued?]
  have settlement : settled (history ++ [(.complete ticket result, .completed (.ok became))]) =
      settled history ++ [ticket] := settled_snoc ..
  have found (number : Nat) : (after.dispatcher.inFlight)[number]? =
      if ticket = number then none else editor.dispatcher.inFlight[number]? := by
    rw [same]
    simp [Editor.settle, Std.ExtTreeMap.getElem?_erase]
  obtain ⟨issuedOnce, unsettled⟩ := (booked.standing ticket).mp (by simp [standing])
  constructor
  case counted =>
    rw [noIssue, same]
    exact booked.counted
  case fresh => simpa only [noIssue] using booked.fresh
  case known =>
    intro number member
    rw [noIssue]
    rw [settlement, List.mem_append, List.mem_singleton] at member
    rcases member with old | rfl
    · exact booked.known number old
    · exact issuedOnce
  case once =>
    rw [settlement]
    exact List.nodup_append.mpr ⟨booked.once, by simp, fun number old other same => by
      rintro rfl
      exact unsettled (List.mem_singleton.mp same ▸ old)⟩
  case standing =>
    intro number
    rw [found, noIssue, settlement, List.mem_append, List.mem_singleton]
    by_cases own : ticket = number
    · simp [own]
    · rw [if_neg own, booked.standing]
      simp [Ne.symm own]
  case alone =>
    intro number other first second one two sameBlocks
    rw [found] at one two
    split at one
    · cases one
    split at two
    · cases two
    exact booked.alone number other first second one two sameBlocks
  case busy =>
    intro block form number present waiting
    obtain ⟨different, old, earlier, waited⟩ := older block form number present waiting
    obtain ⟨asked, flying, itsBlock⟩ := booked.busy block old number earlier waited
    have other : ticket ≠ number := by
      rintro rfl
      obtain rfl := Option.some.inj (standing.symm.trans flying)
      exact different itsBlock.symm
    exact ⟨asked, by rw [found, if_neg other, flying], itsBlock⟩

theorem submittedForm_inFlight {block : RecordId} {values : BlockValues} {ticket : Nat}
    (waiting : (editor.submittedForm block values).inFlight = some ticket) :
    ∃ old, editor.form? block = some old ∧ old.inFlight = some ticket := by
  rw [Editor.submittedForm, BlockForm.inFlight_type] at waiting
  cases present : editor.form? block with
  | none => simp [present] at waiting
  | some form => exact ⟨form, rfl, by simpa [present] using waiting⟩

/-- Whatever happens to the editor, the books are kept. -/
theorem handled {desk : Desk} (booked : Booked desk.editor history)
    (handled : Handled desk event outcome after) :
    Booked after (history ++ [(event, outcome)]) := by
  cases handled with
  | kept issues settles =>
      exact booked.of_dispatcher_eq issues settles rfl
        fun block form ticket present waiting => ⟨form, present, waiting⟩
  | inserted => exact booked.of_setForm rfl rfl nofun
  | opened => exact booked.of_setForm rfl rfl nofun
  | left block => exact booked.of_dropForm rfl rfl block
  | typed block values form present =>
      exact booked.of_setForm rfl rfl fun ticket waiting =>
        ⟨form, present, by simpa using waiting⟩
  | refused => exact booked.of_setForm rfl rfl fun ticket waiting => submittedForm_inFlight waiting
  | sent block values input request dispatcher accepted dispatched =>
      exact booked.sent dispatched rfl
  | saved ticket result request block standing =>
      refine booked.settle standing rfl fun other form number present waiting => ?_
      rw [Editor.form?_dropForm, Editor.form?_dropForm] at present
      split at present
      · cases present
      split at present
      · cases present
      case isFalse different => exact ⟨Ne.symm different, form, present, waiting⟩
  | failed ticket result request error standing =>
      refine booked.settle standing (Editor.dispatcher_failForm ..)
        fun other form number present waiting => ?_
      rw [Editor.form?_failForm] at present
      split at present
      case isTrue =>
        obtain ⟨old, -, rfl⟩ := Option.map_eq_some_iff.mp present
        cases waiting
      case isFalse different => exact ⟨Ne.symm different, form, present, waiting⟩
  | cancelled block => exact booked.of_dropForm rfl rfl block
  | pruned =>
      refine booked.of_dispatcher_eq rfl rfl rfl fun block form ticket present waiting => ?_
      rw [Editor.form?_prune, Option.filter_eq_some_iff] at present
      exact ⟨form, present.1, waiting⟩

/-- Whatever happens, and whatever becomes of the records in between, the books are kept. -/
theorem runAmong {desk : Desk} (booked : Booked desk.editor history)
    (moves : List (Cache × Event)) :
    Booked (desk.runAmong moves).editor (history ++ desk.traceAmong moves) := by
  induction moves generalizing desk history with
  | nil => simpa [Desk.runAmong, traceAmong] using booked
  | cons move moves induction =>
      obtain ⟨cache, event⟩ := move
      have kept : Booked { desk with cache }.editor history := booked
      have next := induction (kept.handled (Desk.handled { desk with cache } event))
      rwa [List.append_assoc] at next

end Booked

variable {desk : Desk} {block : RecordId}

/-- Valid values of a block with a request in flight are not sent. -/
theorem submit_of_isInFlight (busy : desk.editor.dispatcher.isInFlight block = true)
    {values : BlockValues} {input : BlockInput} (accepted : values.validate = .ok input) :
    (desk.step (.submit block values)).1 =
        .submitted (.error (.dispatch (.alreadyInFlight block))) ∧
      (desk.step (.submit block values)).2.editor.dispatcher = desk.editor.dispatcher := by
  have rejected : desk.editor.dispatcher.dispatch desk.cache.store block input =
      .error (.alreadyInFlight block) := by
    rw [Dispatcher.dispatch, if_pos busy]
  simp only [step, Editor.submit, accepted, rejected]
  exact ⟨trivial, rfl⟩

theorem cancel_of_isInFlight (busy : desk.editor.dispatcher.isInFlight block = true)
    (confirmed : Bool) :
    desk.step (.cancel block confirmed) = (.cancelled (.ok .inFlight), desk) := by
  simp only [step, Editor.cancel, if_pos busy]

/-- The requests in flight are in order throughout a run, in whatever state its events find the
records: a block has one request in flight at most, and while it has one it is neither sent again
nor cancelled; a ticket is issued once and settled once, and any other answer changes nothing; a
form that waits for a ticket waits for a request of its block. -/
theorem tickets_in_order (table : RouteTable) (moves : List (Cache × Event)) (cache : Cache) :
    let history := (start table).traceAmong moves
    let desk : Desk := { (start table).runAmong moves with cache }
    let inFlight := desk.editor.dispatcher.inFlight
    (∀ (ticket other : Nat) (request second : SaveRequest), inFlight[ticket]? = some request →
        inFlight[other]? = some second → request.block = second.block → ticket = other) ∧
      (issued history).Nodup ∧ (settled history).Nodup ∧
      (∀ ticket result,
        if ticket ∈ issued history ∧ ticket ∉ settled history then
          ∃ outcome, (desk.step (.complete ticket result)).1 = .completed (.ok outcome)
        else desk.step (.complete ticket result) = (.completed (.error .unknownTicket), desk)) ∧
      (∀ (ticket : Nat) (request : SaveRequest), inFlight[ticket]? = some request →
        (∀ values input, values.validate = .ok input →
          (desk.step (.submit request.block values)).1 =
              .submitted (.error (.dispatch (.alreadyInFlight request.block))) ∧
            (desk.step (.submit request.block values)).2.editor.dispatcher =
              desk.editor.dispatcher) ∧
        ∀ confirmed,
          desk.step (.cancel request.block confirmed) = (.cancelled (.ok .inFlight), desk)) ∧
      ∀ block form ticket, desk.editor.form? block = some form → form.inFlight = some ticket →
        ticket ∉ settled history ∧
          ∃ request, inFlight[ticket]? = some request ∧ request.block = block := by
  intro history desk inFlight
  have first : Booked (start table).editor [] := .start
  have booked : Booked desk.editor history := first.runAmong moves
  refine ⟨booked.alone, booked.fresh, booked.once, fun ticket result => ?_,
    fun ticket request standing => ?_, fun block form ticket present waiting => ?_⟩
  · split
    case isTrue owed =>
      obtain ⟨request, standing⟩ := Option.isSome_iff_exists.mp ((booked.standing ticket).mpr owed)
      obtain ⟨outcome, middle, answered⟩ := answered_of_standing standing result
      exact ⟨outcome, answered.told⟩
    case isFalse closed =>
      have absent : desk.editor.dispatcher.inFlight[ticket]? = none := by
        simpa using mt (booked.standing ticket).mp closed
      exact complete_of_absent absent result
  · have busy : desk.editor.dispatcher.isInFlight request.block = true := by
      by_contra free
      exact Dispatcher.isInFlight_eq_false.mp (by simpa using free) ticket request standing rfl
    exact ⟨fun values input accepted => submit_of_isInFlight busy accepted,
      cancel_of_isInFlight busy⟩
  · obtain ⟨request, standing, itsBlock⟩ := booked.busy block form ticket present waiting
    exact ⟨((booked.standing ticket).mp (by simp [standing])).2, request, standing,
      itsBlock⟩

end Desk

end RealmDesk
