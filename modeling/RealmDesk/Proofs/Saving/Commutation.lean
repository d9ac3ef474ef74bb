import RealmDesk.Proofs.Desk.BlockList
import RealmDesk.Proofs.Saving.Adoption
import RealmDesk.Proofs.Store.Plain

/-!
# Answers in either order

What an answer does to the records depends on its request only, as long as the realm of a new block
is stored. So two requests for different blocks can be answered in either order if the answers agree
where they overlap. The one thing on which they may differ is the list of a realm in which blocks
are created, because the order of blocks here wins over the order in an answer.
-/

namespace RealmDesk

namespace SaveRequest

/-- What an answer does to the records, wherever the realm of a new block is stored. -/
def effect (request : SaveRequest) (normalized : Normalized) : Effect :=
  match request.mutation with
  | .update _ _ => ⟨none, normalized.snapshot.view⟩
  | .create realm index input =>
      match request.block,
        Dispatcher.createdBlock? normalized (Operation.createBlockField input.kind) index with
      | .pending pending, some (.persisted saved) =>
          ⟨some ⟨pending, saved, realm⟩,
            (normalized.snapshot.withoutField (.persisted realm) Field.blocks).view⟩
      | _, _ => ⟨none, fun _ => none⟩

/-- What becomes of the request, wherever the realm of a new block is stored. -/
def outcome (request : SaveRequest) (normalized : Normalized) : SaveOutcome :=
  match request.mutation with
  | .update _ _ => .saved request.block request.block
  | .create _ index input =>
      let field := Operation.createBlockField input.kind
      match Dispatcher.createdBlock? normalized field index with
      | none => .failed request.block (.parse (.noBlock field index))
      | some saved => .saved request.block saved

/-- Only unsaved blocks are created. -/
def Proper (request : SaveRequest) : Prop :=
  request.mutation.realm?.isSome → request.block.isPending

variable {request : SaveRequest} {normalized : Normalized}

theorem eq_of_adoption {adoption : Adoption}
    (adopted : adoption ∈ (request.effect normalized).adoption?) :
    request.block = .pending adoption.pending ∧
      request.mutation.realm? = some (.persisted adoption.realm) := by
  obtain ⟨ticket, block, mutation⟩ := request
  cases mutation with
  | update => cases adopted
  | create realm index input =>
      simp only [effect] at adopted
      split at adopted
      · obtain rfl := Option.some.inj adopted
        exact ⟨rfl, rfl⟩
      · cases adopted

/-- A layer holds what the answer holds, except for the list of the realm. -/
theorem exists_of_layer {id : RecordId} {incoming : Record}
    (found : (request.effect normalized).layer id = some incoming) :
    ∃ record, (id, record) ∈ normalized.snapshot.entries ∧ incoming.typeTag = record.typeTag ∧
      ∀ field, incoming.get? field =
        if field = Field.blocks ∧ request.mutation.realm? = some id then none
        else (record.get? field).map FieldValue.unsignedZeros := by
  obtain ⟨ticket, block, mutation⟩ := request
  cases mutation with
  | update =>
      obtain ⟨record, member, rfl⟩ := Snapshot.exists_of_view found
      refine ⟨record, member, rfl, ?_⟩
      intro field
      rw [if_neg (fun both => nomatch both.2)]
      exact record.get?_unsignedZeros field
  | create realm index input =>
      simp only [effect] at found
      split at found
      case h_2 => cases found
      case h_1 =>
        obtain ⟨trimmed, present, rfl⟩ := Snapshot.exists_of_view found
        obtain ⟨record, member, rfl⟩ := Snapshot.exists_of_mem_withoutField present
        by_cases named : id = .persisted realm
        · subst named
          refine ⟨record, member, by rw [if_pos rfl]; rfl, ?_⟩
          intro field
          rw [if_pos rfl, Record.get?_unsignedZeros, Record.get?_erase]
          by_cases list : field = Field.blocks
          · rw [if_pos list.symm, if_pos ⟨list, rfl⟩]
            rfl
          · rw [if_neg (Ne.symm list), if_neg fun both => list both.1]
        · refine ⟨record, member, by rw [if_neg named]; rfl, ?_⟩
          intro field
          have other : ¬(field = Field.blocks ∧ some (RecordId.persisted realm) = some id) :=
            fun both => named (Option.some.inj both.2).symm
          rw [if_neg named, Record.get?_unsignedZeros]
          exact (if_neg other).symm

theorem saved_layer (request : SaveRequest) (closed : normalized.snapshot.Closed) :
    (request.effect normalized).layer.Saved := by
  intro number
  rw [Option.eq_none_iff_forall_ne_some]
  intro incoming found
  obtain ⟨record, member, -⟩ := exists_of_layer found
  have saved := closed.saved _ member
  cases saved

theorem omits_layer {realm : RecordId} (request : SaveRequest)
    (omits : request.mutation.realm? ≠ some realm → normalized.snapshot.Omits realm) :
    (request.effect normalized).layer.Omits realm := by
  intro incoming found
  obtain ⟨record, member, -, fields⟩ := exists_of_layer found
  rw [fields]
  by_cases own : request.mutation.realm? = some realm
  · exact if_pos ⟨rfl, own⟩
  · have absent := omits own _ member rfl
    simp only [own, absent, and_false, if_false, Option.map_none]

/-- Where the realm of a new block is stored, the answer has its effect. -/
theorem finish_of_stored {cache : Cache} {result : ApiResult Json} (proper : request.Proper)
    (read : Normalized.ofResult result = .ok normalized)
    (stored : ∀ realm ∈ request.mutation.realm?, (cache.store.records.view realm).isSome) :
    (Dispatcher.finish cache request result).1 = request.outcome normalized ∧
      (Dispatcher.finish cache request result).2.store.records.view =
        (request.effect normalized).on cache.store.records.view := by
  obtain ⟨closed, -⟩ := Normalized.closed_of_ofResult read
  obtain ⟨ticket, block, mutation⟩ := request
  rw [Dispatcher.finish, read]
  cases mutation with
  | update id input =>
      refine ⟨rfl, (cache.wrote_applySnapshot normalized.snapshot).view.trans ?_⟩
      exact View.mergeSnapshot_eq_overlay _ closed.distinct
  | create realm index input =>
      obtain ⟨number, rfl⟩ := RecordId.exists_eq_pending (proper rfl)
      simp only [Dispatcher.apply, outcome, effect]
      cases named : Dispatcher.createdBlock? normalized
          (Operation.createBlockField input.kind) index with
      | none => exact ⟨rfl, rfl⟩
      | some saved =>
          have isSaved := closed.isPending_eq_false (Dispatcher.mem_of_createdBlock? closed named)
          obtain ⟨id, rfl⟩ := RecordId.exists_eq_persisted isSaved
          obtain ⟨done, wrote⟩ := Dispatcher.update_reconcile_of_stored
            (stored (.persisted realm) rfl) (.pending number) (.persisted id) normalized.snapshot
          dsimp only
          rw [show cache.update _ = (_, _) from Prod.ext done rfl]
          exact ⟨rfl, wrote.view.trans
            (View.adopt_eq_overlay_rename _ ⟨number, id, realm⟩ closed.distinct)⟩

end SaveRequest

/-- The records that two snapshots share have one type, and one value in each field that they
share. The blocks of some records do not count. -/
def Snapshot.Concurs (snapshot other : Snapshot) (exempt : RecordId → Prop) : Prop :=
  ∀ entry ∈ snapshot.entries, ∀ otherEntry ∈ other.entries, entry.1 = otherEntry.1 →
    entry.2.typeTag = otherEntry.2.typeTag ∧
      ∀ field ∈ entry.2.fields.toList, ∀ otherField ∈ otherEntry.2.fields.toList,
        field.1 = otherField.1 →
          field.2.Same otherField.2 ∨ (field.1 = Field.blocks ∧ exempt entry.1)

instance (snapshot other : Snapshot) (exempt : RecordId → Prop) [DecidablePred exempt] :
    Decidable (snapshot.Concurs other exempt) :=
  inferInstanceAs (Decidable (∀ entry ∈ snapshot.entries, ∀ otherEntry ∈ other.entries, _ → _ ∧ _))

/-- The answer to a mutation says nothing about the blocks of the realm in which another one
creates a block, unless both create one there. -/
def Mutation.Defers (mutation other : Mutation) (snapshot : Snapshot) : Prop :=
  ∀ realm ∈ other.realm?, mutation.realm? ≠ some realm → snapshot.Omits realm

theorem Mutation.eq_persisted_of_realm? {mutation : Mutation} {realm : RecordId}
    (creates : mutation.realm? = some realm) : ∃ id, realm = .persisted id := by
  cases mutation with
  | update => cases creates
  | create id => exact ⟨id, (Option.some.inj creates).symm⟩

namespace SaveRequest

variable {request other : SaveRequest} {normalized otherNormalized : Normalized}

theorem agrees_layers
    (concurs : normalized.snapshot.Concurs otherNormalized.snapshot fun id =>
      request.mutation.realm? = some id ∨ other.mutation.realm? = some id) :
    (request.effect normalized).layer.Agrees (other.effect otherNormalized).layer := by
  intro id left right onLeft onRight
  obtain ⟨record, member, tag, fields⟩ := exists_of_layer onLeft
  obtain ⟨otherRecord, otherMember, otherTag, otherFields⟩ := exists_of_layer onRight
  obtain ⟨tags, values⟩ := concurs _ member _ otherMember rfl
  constructor
  · rw [tag, otherTag, tags]
  · intro field value otherValue named otherNamed
    rw [fields] at named
    rw [otherFields] at otherNamed
    split at named
    case isTrue => cases named
    case isFalse counts =>
      split at otherNamed
      case isTrue => cases otherNamed
      case isFalse otherCounts =>
        obtain ⟨original, found, rfl⟩ := Option.map_eq_some_iff.mp named
        obtain ⟨otherOriginal, otherFound, rfl⟩ := Option.map_eq_some_iff.mp otherNamed
        have listed := Std.ExtTreeMap.mem_toList_iff_getElem?_eq_some.mpr found
        have otherListed := Std.ExtTreeMap.mem_toList_iff_getElem?_eq_some.mpr otherFound
        rcases values _ listed _ otherListed rfl with same | ⟨list, own | otherOwn⟩
        · exact same
        · exact absurd ⟨list, own⟩ counts
        · exact absurd ⟨list, otherOwn⟩ otherCounts

theorem passes_layer (closed : normalized.snapshot.Closed)
    (defers : request.mutation.Defers other.mutation normalized.snapshot) :
    (other.effect otherNormalized).Passes (request.effect normalized).layer := by
  constructor
  · exact request.saved_layer closed
  · intro adoption adopted
    obtain ⟨-, creates⟩ := eq_of_adoption adopted
    exact request.omits_layer (defers _ creates)

theorem passes_own (closed : normalized.snapshot.Closed) :
    (request.effect normalized).Passes (request.effect normalized).layer :=
  passes_layer closed fun _ creates other => absurd creates other

theorem placed_effect {view : View}
    (stored : ∀ realm ∈ request.mutation.realm?, (view realm).isSome) :
    (request.effect normalized).Placed view := by
  intro adoption adopted
  obtain ⟨-, creates⟩ := eq_of_adoption adopted
  exact stored _ creates

end SaveRequest

/-! ## Both orders -/

namespace Dispatcher

/-- A dispatcher that came about by handing out requests and taking in their results. -/
inductive Arises : Dispatcher → Prop where
  | start : Arises {}
  | dispatch {dispatcher later : Dispatcher} {store : Store} {block : RecordId}
      {input : BlockInput} {request : SaveRequest} (arises : Arises dispatcher)
      (sent : dispatcher.dispatch store block input = .ok (request, later)) : Arises later
  | complete {dispatcher later : Dispatcher} {cache after : Cache} {ticket : Nat}
      {result : ApiResult Json} {outcome : SaveOutcome} (arises : Arises dispatcher)
      (completed : dispatcher.complete cache ticket result = .ok (outcome, later, after)) :
      Arises later

theorem Arises.proper {dispatcher : Dispatcher} (arises : dispatcher.Arises) {ticket : Nat}
    {request : SaveRequest} (found : dispatcher.inFlight[ticket]? = some request) :
    request.Proper := by
  induction arises generalizing ticket with
  | start => simp at found
  | @dispatch dispatcher later store block input sentRequest arises sent induction =>
      obtain ⟨-, saves, rfl, -, -, asked⟩ := dispatch_of_ok sent
      rw [Std.ExtTreeMap.getElem?_insert] at found
      split at found
      · obtain rfl := Option.some.inj found
        intro creates
        rcases mutationFor_of_ok asked with ⟨id, -, update⟩ | ⟨realm, front, back, -, -, pending, -⟩
        · simp [update, Mutation.realm?] at creates
        · rwa [saves]
      · exact induction found
  | complete arises completed induction =>
      obtain ⟨finished, -, rfl, -⟩ := complete_of_ok completed
      rw [Std.ExtTreeMap.getElem?_erase] at found
      split at found
      · cases found
      · exact induction found

/-- Hands in the results of two requests, one after the other. -/
def completeBoth (dispatcher : Dispatcher) (cache : Cache) (first second : Nat × ApiResult Json) :
    Except DispatchError ((SaveOutcome × SaveOutcome) × Dispatcher × Cache) :=
  match dispatcher.complete cache first.1 first.2 with
  | .error error => .error error
  | .ok (outcome, dispatcher, cache) =>
      match dispatcher.complete cache second.1 second.2 with
      | .error error => .error error
      | .ok (later, dispatcher, cache) => .ok ((outcome, later), dispatcher, cache)

/-- The dispatcher without the requests of two tickets. -/
def withoutBoth (dispatcher : Dispatcher) (first second : Nat) : Dispatcher :=
  { dispatcher with inFlight := (dispatcher.inFlight.erase first).erase second }

theorem withoutBoth_comm (dispatcher : Dispatcher) (first second : Nat) :
    dispatcher.withoutBoth first second = dispatcher.withoutBoth second first := by
  have erased : (dispatcher.inFlight.erase first).erase second =
      (dispatcher.inFlight.erase second).erase first := by
    apply Std.ExtTreeMap.ext_getElem?
    intro ticket
    rw [Std.ExtTreeMap.getElem?_erase, Std.ExtTreeMap.getElem?_erase,
      Std.ExtTreeMap.getElem?_erase, Std.ExtTreeMap.getElem?_erase]
    split <;> split <;> rfl
  rw [withoutBoth, withoutBoth, erased]

variable {dispatcher : Dispatcher} {cache : Cache} {first second : Nat}
  {request other : SaveRequest} {data otherData : Json} {normalized otherNormalized : Normalized}

/-- Each answer has its own effect, the second one on what the first one left. -/
theorem completeBoth_of_stored (arises : dispatcher.Arises)
    (found : dispatcher.inFlight[first]? = some request)
    (otherFound : dispatcher.inFlight[second]? = some other) (different : first ≠ second)
    (read : Normalized.ofJson data = .ok normalized)
    (otherRead : Normalized.ofJson otherData = .ok otherNormalized)
    (stored : ∀ realm ∈ request.mutation.realm?, (cache.store.records.view realm).isSome)
    (otherStored : ∀ realm ∈ other.mutation.realm?, (cache.store.records.view realm).isSome) :
    ∃ after, dispatcher.completeBoth cache (first, .ok data) (second, .ok otherData) =
        .ok ((request.outcome normalized, other.outcome otherNormalized),
          dispatcher.withoutBoth first second, after) ∧
      after.store.records.view =
        (other.effect otherNormalized).on
          ((request.effect normalized).on cache.store.records.view) := by
  have result := Normalized.ofResult_ok.mpr read
  have otherResult := Normalized.ofResult_ok.mpr otherRead
  obtain ⟨outcome, view⟩ := SaveRequest.finish_of_stored (arises.proper found) result stored
  have kept : ∀ realm ∈ other.mutation.realm?,
      ((finish cache request (.ok data)).2.store.records.view realm).isSome := by
    intro realm creates
    obtain ⟨id, rfl⟩ := Mutation.eq_persisted_of_realm? creates
    rw [view]
    exact Effect.isSome_on _ (otherStored _ creates)
  obtain ⟨otherOutcome, otherView⟩ :=
    SaveRequest.finish_of_stored (arises.proper otherFound) otherResult kept
  have remaining : (dispatcher.inFlight.erase first)[second]? = some other := by
    rw [Std.ExtTreeMap.getElem?_erase, if_neg (by simpa using different)]
    exact otherFound
  refine ⟨_, ?_, otherView.trans (by rw [view])⟩
  rw [completeBoth, complete_of_found found]
  dsimp only
  rw [complete_of_found remaining, outcome, otherOutcome]
  rfl

/-- Two requests for different blocks can be answered in either order: what becomes of each of them
is the same, and so are the records, if the answers agree on what they share, but for the blocks of
the realms in which blocks are to be created, and neither says what the blocks of the other one's
realm are. -/
theorem completeBoth_comm (arises : dispatcher.Arises)
    (found : dispatcher.inFlight[first]? = some request)
    (otherFound : dispatcher.inFlight[second]? = some other)
    (different : request.block ≠ other.block)
    (read : Normalized.ofJson data = .ok normalized)
    (otherRead : Normalized.ofJson otherData = .ok otherNormalized)
    (concurs : normalized.snapshot.Concurs otherNormalized.snapshot fun id =>
      request.mutation.realm? = some id ∨ other.mutation.realm? = some id)
    (defers : request.mutation.Defers other.mutation normalized.snapshot)
    (otherDefers : other.mutation.Defers request.mutation otherNormalized.snapshot)
    (stored : ∀ realm, request.mutation.realm? = some realm ∨ other.mutation.realm? = some realm →
      realm ∈ cache.store.records) :
    ∃ outcome otherOutcome later after otherAfter,
      dispatcher.completeBoth cache (first, .ok data) (second, .ok otherData) =
          .ok ((outcome, otherOutcome), later, after) ∧
        dispatcher.completeBoth cache (second, .ok otherData) (first, .ok data) =
          .ok ((otherOutcome, outcome), later, otherAfter) ∧
        after.store.records.Same otherAfter.store.records := by
  have closed := (Normalized.closed_of_ofJson read).1
  have otherClosed := (Normalized.closed_of_ofJson otherRead).1
  have own : ∀ realm ∈ request.mutation.realm?, (cache.store.records.view realm).isSome :=
    fun realm creates => Records.isSome_view.mpr (stored realm (.inl creates))
  have others : ∀ realm ∈ other.mutation.realm?, (cache.store.records.view realm).isSome :=
    fun realm creates => Records.isSome_view.mpr (stored realm (.inr creates))
  have apart : first ≠ second := by
    rintro rfl
    have same : request = other := Option.some.inj (found.symm.trans otherFound)
    exact different (congrArg SaveRequest.block same)
  obtain ⟨after, completed, view⟩ :=
    completeBoth_of_stored arises found otherFound apart read otherRead own others
  obtain ⟨otherAfter, otherCompleted, otherView⟩ :=
    completeBoth_of_stored arises otherFound found apart.symm otherRead read others own
  refine ⟨_, _, _, after, otherAfter, completed, ?_, Records.same_iff_view.mpr ?_⟩
  · rw [otherCompleted, withoutBoth_comm]
  · rw [view, otherView]
    apply Effect.on_comm
    · exact SaveRequest.placed_effect own
    · exact SaveRequest.placed_effect others
    · exact SaveRequest.passes_own closed
    · exact SaveRequest.passes_own otherClosed
    · exact SaveRequest.passes_layer otherClosed otherDefers
    · exact SaveRequest.passes_layer closed defers
    · exact SaveRequest.agrees_layers concurs
    · intro adoption adopted otherAdoption otherAdopted same
      obtain ⟨block, -⟩ := SaveRequest.eq_of_adoption adopted
      obtain ⟨otherBlock, -⟩ := SaveRequest.eq_of_adoption otherAdopted
      exact different (by rw [block, otherBlock, same])

/-- Two new blocks of one realm are saved. The server puts the second one in front of the first. -/
theorem completeBoth_comm_of_two_new :
    let realm : RecordId := .persisted "r"
    let block (name : String) : Json := .obj [("id", .str name), ("__typename", .str "TitleBlock")]
    let answer (names : List String) : Json := .obj [("addTitleBlock", .obj
      [("id", .str "r"), ("__typename", .str "Realm"), ("blocks", .arr (names.map block))])]
    let first : SaveRequest := ⟨1, .pending 1, .create "r" 0 (.title "x")⟩
    let second : SaveRequest := ⟨2, .pending 2, .create "r" 0 (.title "y")⟩
    let dispatcher : Dispatcher :=
      ⟨((∅ : Std.ExtTreeMap Nat SaveRequest).insert 1 first).insert 2 second, 2⟩
    let cache : Cache := { store := { records := .ofList [
      (realm, Record.mk "Realm" (.ofList [(Field.blocks, .links [.pending 1, .pending 2])])),
      (.pending 1, Record.mk "TitleBlock" ∅), (.pending 2, Record.mk "TitleBlock" ∅)] } }
    dispatcher.Arises ∧ realm ∈ cache.store.records ∧
      ∃ outcome otherOutcome later after otherAfter,
        dispatcher.completeBoth cache (1, .ok (answer ["a"])) (2, .ok (answer ["b", "a"])) =
            .ok ((outcome, otherOutcome), later, after) ∧
          dispatcher.completeBoth cache (2, .ok (answer ["b", "a"])) (1, .ok (answer ["a"])) =
            .ok ((otherOutcome, outcome), later, otherAfter) ∧
          after.store.records.Same otherAfter.store.records := by
  intro realm block answer first second dispatcher cache
  have sent : ({} : Dispatcher).dispatch cache.store (.pending 1) (.title "x") =
      .ok (first, ⟨(∅ : Std.ExtTreeMap Nat SaveRequest).insert 1 first, 1⟩) := by
    decide +kernel
  have sentAgain : Dispatcher.dispatch ⟨(∅ : Std.ExtTreeMap Nat SaveRequest).insert 1 first, 1⟩
      cache.store (.pending 2) (.title "y") = .ok (second, dispatcher) := by
    decide +kernel
  have arises : dispatcher.Arises := .dispatch (.dispatch .start sent) sentAgain
  have stored : realm ∈ cache.store.records := by decide +kernel
  have read : Normalized.ofJson (answer ["a"]) = .ok ⟨.ofList [("addTitleBlock", .link realm)],
      ⟨[(.persisted "a", ⟨"TitleBlock", ∅⟩),
        (realm, ⟨"Realm", .ofList [(Field.blocks, .links [.persisted "a"])]⟩)]⟩⟩ := by
    decide +kernel
  have readAgain : Normalized.ofJson (answer ["b", "a"]) =
      .ok ⟨.ofList [("addTitleBlock", .link realm)],
        ⟨[(.persisted "a", ⟨"TitleBlock", ∅⟩), (.persisted "b", ⟨"TitleBlock", ∅⟩),
          (realm, ⟨"Realm", .ofList
            [(Field.blocks, .links [.persisted "b", .persisted "a"])]⟩)]⟩⟩ := by
    decide +kernel
  have found : dispatcher.inFlight[1]? = some first := by decide +kernel
  have foundAgain : dispatcher.inFlight[2]? = some second := by decide +kernel
  refine ⟨arises, stored, completeBoth_comm arises found foundAgain ?_ read readAgain
    (by decide +kernel) ?_ ?_ ?_⟩
  · decide
  · exact fun _ creates other => absurd creates other
  · exact fun _ creates other => absurd creates other
  · rintro id (creates | creates) <;> exact Option.some.inj creates ▸ stored

end Dispatcher

end RealmDesk
