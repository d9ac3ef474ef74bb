import RealmDesk.Proofs.Store.Audience
import RealmDesk.Proofs.Store.Update

/-!
# Records after a local update

The view of a store leaves open which of two records that are the same stands in it. An update
decides this: where its draft shows the same record as before, the stored one stays, and everywhere
else the record of the draft is written as it is. The one commit that is published of it names the
change between both.
-/

namespace RealmDesk

namespace RecordChange

theorem eq_of_unsignedZeros_eq {before after : Record}
    (same : before.unsignedZeros = after.unsignedZeros) :
    before.typeTag = after.typeTag ∧ differing before after = [] := by
  constructor
  · have tags := congrArg Record.typeTag same
    exact tags
  · refine List.eq_nil_iff_forall_not_mem.mpr ?_
    intro field listed
    have value := congrArg (·.get? field) same
    simp only [Record.get?_unsignedZeros] at value
    simpa [agreesOn, value] using mem_differing.mp listed

theorem of?_eq_none_iff {before after : Option Record} :
    of? before after = none ↔
      before.map Record.unsignedZeros = after.map Record.unsignedZeros := by
  refine ⟨map_unsignedZeros_of_of?_eq_none, ?_⟩
  intro same
  cases before with
  | none =>
      cases after with
      | none => rfl
      | some after => cases same
  | some before =>
      cases after with
      | none => cases same
      | some after =>
          obtain ⟨tags, none⟩ := eq_of_unsignedZeros_eq (Option.some.inj same)
          rw [of?, between?, if_neg (not_not.mpr tags), none]

end RecordChange

namespace Cache

/-- What a step changed is published in one commit, unless it changed nothing: the commit names
every record that changed, and how, and its listeners see the records afterwards. -/
def ShownAtOnce (before after : Cache) : Prop :=
  ∃ commit : Commit,
    (∀ id, commit.changes[id]? = RecordChange.of? (before.read id) (after.read id)) ∧
      after.journal =
        if commit.isEmpty then before.journal
        else before.journal ++ [⟨commit, after.store.records⟩]

variable {ε α : Type} {cache : Cache} {edit : Edit ε α} {value : α} {draft : Draft}

theorem update_of_ok (ran : edit.run cache.draft = (.ok value, draft)) :
    cache.update edit = (.ok value, cache.publish
      { cache.store with
        records := cache.store.landed draft.staged, lastPending := draft.lastPending }
      (.of (cache.store.changes draft.staged) cache.store.subscriptions)) := by
  simp only [update, Store.update, ran]

/-- A record is written as the draft has it, unless it is the same as before. -/
theorem read_update_of_ok (ran : edit.run cache.draft = (.ok value, draft))
    (base : draft.base = cache.store.records) (id : RecordId) :
    (cache.update edit).2.read id =
      if cache.store.records.view id = draft.view id then cache.read id else draft.get? id := by
  rw [update_of_ok ran, read, Store.read, store_publish, Store.getElem?_landed, Draft.view,
    Draft.get?, base]
  cases staged : draft.staged[id]? with
  | none => exact (ite_self _).symm
  | some next =>
      have unchanged : cache.store.change? id next = none ↔
          cache.store.records.view id = next.map Record.unsignedZeros :=
        RecordChange.of?_eq_none_iff
      simp only [unchanged]
      rfl

section Drafted

variable (ran : edit.run cache.draft = (.ok value, draft))
  (base : draft.base = cache.store.records) {id : RecordId}
include ran base

/-- What the draft leaves alone stays as it is. -/
theorem read_update_of_left (left : draft.get? id = cache.read id) :
    (cache.update edit).2.read id = cache.read id := by
  rw [read_update_of_ok ran base, left, ite_self]

theorem read_update_of_isSome_ne (differ : (draft.get? id).isSome ≠ (cache.read id).isSome) :
    (cache.update edit).2.read id = draft.get? id := by
  rw [read_update_of_ok ran base, if_neg]
  intro same
  apply differ
  have alike := congrArg Option.isSome same
  rw [Records.view, Option.isSome_map, Draft.view, Option.isSome_map] at alike
  exact alike.symm

theorem read_update_of_links (field : String) {old new : Record}
    (stored : cache.read id = some old) (drafted : draft.get? id = some new)
    (differ : new.links field ≠ old.links field) :
    (cache.update edit).2.read id = some new := by
  rw [read_update_of_ok ran base, drafted, if_neg]
  intro same
  have standing : cache.draft.get? id = some old := (Draft.get?_start ..).trans stored
  rw [view_eq_some standing, Draft.view, drafted] at same
  have lists := congrArg (·.links field) (Option.some.inj same)
  simp only [Record.links_unsignedZeros] at lists
  exact differ lists.symm

end Drafted

/-- A record that looks the same after an update is as it was. -/
theorem read_update_of_same (edit : Edit ε α) {id : RecordId}
    (same : (cache.update edit).2.store.records.view id = cache.store.records.view id) :
    (cache.update edit).2.read id = cache.read id := by
  cases ran : edit.run cache.draft with
  | mk result draft =>
      cases result with
      | error error => simp only [update, Store.update, ran, read, Store.read, store_publish]
      | ok value =>
          rw [update_of_ok ran, store_publish, Records.view, Store.getElem?_landed] at same
          rw [update_of_ok ran, read, Store.read, store_publish, Store.getElem?_landed]
          cases staged : draft.staged[id]? with
          | none => rfl
          | some next =>
              simp only [staged] at same
              split at same
              case isTrue unchanged => exact if_pos unchanged
              case isFalse changed =>
                exact absurd (RecordChange.of?_eq_none_iff.mpr same.symm) changed

theorem shownAtOnce_update (cache : Cache) (edit : Edit ε α) :
    cache.ShownAtOnce (cache.update edit).2 := by
  cases ran : edit.run cache.draft with
  | mk result draft =>
      cases result with
      | ok value =>
          rw [update_of_ok ran]
          refine ⟨.of (cache.store.changes draft.staged) cache.store.subscriptions, ?_, ?_⟩
          · intro id
            rw [read, read, Store.read, Store.read, store_publish]
            exact cache.store.getElem?_changes draft.staged id
          · rw [publish]
            split <;> rfl
      | error error =>
          refine ⟨.empty, ?_, ?_⟩
          · intro id
            simp only [update, Store.update, ran, read, Store.read, store_publish,
              RecordChange.of?_self]
            rfl
          · simp only [update, Store.update, ran]
            rfl

end Cache

end RealmDesk
