import RealmDesk.Desk
import RealmDesk.Proofs.Saving.Requests
import RealmDesk.Proofs.Store.Overlay
import RealmDesk.Proofs.Visit.History
import RealmDesk.Proofs.Visit.Records

/-!
# Answers land whole or not at all

An answer can be of no use for many reasons: it is no envelope, holds errors, cannot be turned into
records, or misses what was asked for; or the realm of a new block is gone. Whatever the reason, it
is found before anything is written. So an answer leaves all of its records behind, or none.
-/

namespace RealmDesk

namespace Cache

/-- The snapshot was merged as a whole, and nothing else of the store changed. -/
structure Absorbed (before : Cache) (snapshot : Snapshot) (after : Cache) : Prop where
  /-- Each record of the snapshot lies over the one that was there. -/
  view : after.store.records.view = before.store.records.view.overlay snapshot.view
  rest : after.store = { before.store with records := after.store.records }

theorem absorbed_applySnapshot (cache : Cache) {snapshot : Snapshot}
    (closed : snapshot.Closed) : cache.Absorbed snapshot (cache.applySnapshot snapshot) := by
  have wrote := cache.wrote_applySnapshot snapshot
  constructor
  · rw [wrote.view]
    exact View.mergeSnapshot_eq_overlay _ closed.distinct
  · exact wrote.rest

end Cache

/-- An envelope with an error is of no use, whatever data it holds besides. -/
theorem Normalized.ofResult_read {body : String} {envelope : Envelope}
    (parsed : Envelope.parse body = .ok envelope) (faulty : envelope.errors ≠ []) :
    ofResult (Envelope.read body) = .error (.graphQl envelope.errors) := by
  obtain ⟨message, others, listed⟩ := List.exists_cons_of_ne_nil faulty
  rw [Envelope.read, parsed]
  simp only [Envelope.result, listed]
  rfl

namespace Navigator

/-- What an answer to the latest query leaves behind: the error and the records that were there, or
the root fields and all records of the answer. -/
inductive Landed (navigator : Navigator) (cache : Cache) (result : ApiResult Json) (slot : Slot)
    (later : Navigator) (after : Cache) : Prop where
  /-- Nothing of the answer is merged. -/
  | failed (error : ApiError) (read : Normalized.ofResult result = .error error)
      (latest : later.latest = some { slot with state := .failed error })
      (collected : after = (releaseAll cache navigator.retained.toList).collectGarbage.2)
      (silent : after.journal = cache.journal)
      (kept : ∀ {id : RecordId} {record : Record}, after.read id = some record →
        cache.read id = some record)
  /-- The whole answer is merged. -/
  | ready (normalized : Normalized) (token : Nat) (merged : Cache)
      (read : Normalized.ofResult result = .ok normalized)
      (latest : later.latest = some { slot with state := .ready normalized.root token })
      (absorbed : cache.Absorbed normalized.snapshot merged)
      (collected : after = (releaseAll (merged.retain normalized.rootIds).2
        navigator.retained.toList).collectGarbage.2)

theorem landed_of_awaiting {navigator : Navigator} {generation : Nat} {slot : Slot}
    (awaited : navigator.awaiting? generation = some slot) (cache : Cache)
    (result : ApiResult Json) :
    navigator.Landed cache result slot (navigator.resolve cache generation result).2.1
      (navigator.resolve cache generation result).2.2 := by
  rw [resolve, awaited]
  cases read : Normalized.ofResult result with
  | error error =>
      have tidied := (tidied_releaseAll cache navigator.retained.toList).trans (.collectGarbage _)
      rw [settle, read]
      exact .failed error read rfl rfl tidied.journal tidied.kept
  | ok normalized =>
      have absorbed := cache.absorbed_applySnapshot (Normalized.closed_of_ofResult read).1
      rw [settle, read]
      exact .ready normalized _ _ read rfl absorbed rfl

end Navigator

namespace Dispatcher

theorem finish_of_failed {cache : Cache} {request : SaveRequest} {result : ApiResult Json}
    {block : RecordId} {error : ApiError}
    (failed : (finish cache request result).1 = .failed block error) :
    (finish cache request result).2 = cache := by
  rw [finish] at failed ⊢
  cases read : Normalized.ofResult result with
  | error => rfl
  | ok normalized =>
      rw [read] at failed
      simp only [apply] at failed ⊢
      cases asked : request.mutation with
      | update => simp [asked] at failed
      | create realm index input =>
          simp only [asked] at failed ⊢
          cases named : createdBlock? normalized (Operation.createBlockField input.kind) index with
          | none => rfl
          | some saved =>
              simp only [named] at failed ⊢
              cases present : cache.store.records.view (.persisted realm) with
              | none => rw [update_reconcile_of_absent present]
              | some record =>
                  have done := (update_reconcile_of_stored (Option.isSome_of_eq_some present)
                    request.block saved normalized.snapshot).1
                  rw [show cache.update _ = (_, _) from Prod.ext done rfl] at failed
                  cases failed

theorem cache_of_failed {dispatcher later : Dispatcher} {cache after : Cache} {ticket : Nat}
    {result : ApiResult Json} {block : RecordId} {error : ApiError}
    (completed : dispatcher.complete cache ticket result =
      .ok (.failed block error, later, after)) :
    after = cache := by
  obtain ⟨request, -, -, finishes⟩ := exists_of_complete completed
  have kept : (finish cache request result).2 = cache :=
    finish_of_failed (congrArg Prod.fst finishes)
  rwa [finishes] at kept

end Dispatcher

namespace ChildRealm

theorem createdPath_of_ok {normalized : Normalized} {path : String}
    (created : createdPath normalized = .ok path) :
    path ≠ "" ∧ ∃ id record, normalized.linked? answerField = some (id, record) ∧
      record.typeTag = realmType ∧ record.str? Field.path = some path := by
  rw [createdPath] at created
  cases linked : normalized.linked? answerField with
  | none => simp [linked] at created
  | some entry =>
      obtain ⟨id, record⟩ := entry
      by_cases isRealm : record.typeTag = realmType
      · simp only [linked, Option.bind_some, RealmView.ofRecord?, if_pos isRealm] at created
        split at created
        · cases created
        · next given =>
          obtain rfl := Except.ok.inj created
          cases named : record.str? Field.path with
          | none => simp [named] at given
          | some path =>
              rw [named, Option.getD_some] at given
              refine ⟨?_, id, record, rfl, isRealm, named⟩
              rintro rfl
              exact given rfl
      · simp [linked, RealmView.ofRecord?, if_neg isRealm] at created

end ChildRealm

namespace Desk

/-- A request came to nothing: there is none with the ticket, or its block was not saved. -/
def Outcome.NotSaved : Outcome → Prop
  | .completed (.error _) | .completed (.ok (.failed _ _)) => True
  | _ => False

theorem landed_of_applied (desk : Desk) {generation : Nat} {result : ApiResult Json}
    (applied : (desk.step (.resolve generation result)).1 = .resolved .applied) :
    ∃ slot, desk.navigator.awaiting? generation = some slot ∧
      desk.navigator.Landed desk.cache result slot
        (desk.step (.resolve generation result)).2.navigator
        (desk.step (.resolve generation result)).2.cache := by
  cases awaited : desk.navigator.awaiting? generation with
  | none =>
      have stale := Navigator.resolve_of_none awaited desk.cache result
      simp [step, stale] at applied
  | some slot => exact ⟨slot, rfl, Navigator.landed_of_awaiting awaited desk.cache result⟩

theorem cache_of_not_saved (desk : Desk) {ticket : Nat} {result : ApiResult Json}
    (lost : (desk.step (.finish ticket result)).1.NotSaved) :
    (desk.step (.finish ticket result)).2.cache = desk.cache := by
  rw [step] at lost ⊢
  cases completed : desk.dispatcher.complete desk.cache ticket result with
  | error => rfl
  | ok finished =>
      obtain ⟨outcome, dispatcher, cache⟩ := finished
      cases outcome with
      | saved => simp [completed, Outcome.NotSaved] at lost
      | failed block error => exact Dispatcher.cache_of_failed completed

theorem cache_of_not_submitted (desk : Desk) {ticket : Nat} {result : ApiResult Json}
    (lost : (desk.step (.complete ticket result)).1.NotSaved) :
    (desk.step (.complete ticket result)).2.cache = desk.cache := by
  rw [step, Editor.complete] at lost ⊢
  cases completed : desk.editor.dispatcher.complete desk.cache ticket result with
  | error => rfl
  | ok finished =>
      obtain ⟨outcome, dispatcher, cache⟩ := finished
      cases outcome with
      | saved => simp [completed, Outcome.NotSaved] at lost
      | failed block error => exact Dispatcher.cache_of_failed completed

/-- An answer leaves all of its records behind or none, wherever it goes. To a query: the error and
what the garbage collection spares, or the root fields and the whole answer. To a block: no change
at all if the block was not saved. To a new child realm: no change at all, or the whole answer and
the path of the realm that it links to. An envelope with an error brings no records. -/
theorem answers_land_whole (desk : Desk) (result : ApiResult Json) :
    (∀ generation, let (outcome, later) := desk.step (.resolve generation result)
      outcome = .resolved .applied →
        ∃ slot, desk.navigator.awaiting? generation = some slot ∧
          desk.navigator.Landed desk.cache result slot later.navigator later.cache) ∧
    (∀ ticket, let (outcome, later) := desk.step (.finish ticket result)
      outcome.NotSaved → later.cache = desk.cache) ∧
    (∀ ticket, let (outcome, later) := desk.step (.complete ticket result)
      outcome.NotSaved → later.cache = desk.cache) ∧
    (match desk.step (.addChild result) with
      | (.childAdded (.ok path), later) =>
          path ≠ "" ∧ ∃ normalized id record, Normalized.ofResult result = .ok normalized ∧
            desk.cache.Absorbed normalized.snapshot later.cache ∧
            normalized.linked? "addRealm" = some (id, record) ∧ record.typeTag = realmType ∧
            record.str? Field.path = some path
      | (_, later) => later.cache = desk.cache) ∧
    ∀ body envelope, result = Envelope.read body → Envelope.parse body = .ok envelope →
      envelope.errors ≠ [] → Normalized.ofResult result = .error (.graphQl envelope.errors) := by
  refine ⟨fun generation => desk.landed_of_applied, fun ticket => desk.cache_of_not_saved,
    fun ticket => desk.cache_of_not_submitted, ?_, ?_⟩
  · rw [step, ChildRealm.receive]
    cases read : Normalized.ofResult result with
    | error => rfl
    | ok normalized =>
        dsimp only
        cases created : ChildRealm.createdPath normalized with
        | error => rfl
        | ok path =>
            obtain ⟨given, id, record, linked, isRealm, named⟩ :=
              ChildRealm.createdPath_of_ok created
            have absorbed :=
              desk.cache.absorbed_applySnapshot (Normalized.closed_of_ofResult read).1
            exact ⟨given, normalized, id, record, rfl, absorbed, linked, isRealm, named⟩
  · rintro body envelope rfl parsed faulty
    exact Normalized.ofResult_read parsed faulty

end Desk

end RealmDesk
