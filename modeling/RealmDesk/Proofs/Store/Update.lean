import RealmDesk.Proofs.Store.View

/-!
# What a local update leaves behind

A local update that succeeds gives the store the view of its draft and the counter of its draft; one
that fails gives it nothing but the counter. Nothing else of the store changes, and whatever is
published shows the records as they are afterwards.
-/

namespace RealmDesk

/-- A cache that differs from an earlier one in its records, which have a given view, and in the
number of the latest pending id. -/
structure Cache.Wrote (before after : Cache) (view : View) (lastPending : Nat) : Prop where
  /-- The records have the view. -/
  view : after.store.records.view = view
  /-- Nothing else of the store changed. -/
  rest : after.store =
    { before.store with records := after.store.records, lastPending := lastPending }
  /-- What was published shows the records afterwards. -/
  published : ∀ publication ∈ after.journal,
    publication ∈ before.journal ∨ publication.records = after.store.records

namespace Cache

theorem Wrote.lastPending_eq {before after : Cache} {view : View} {lastPending : Nat}
    (wrote : before.Wrote after view lastPending) : after.store.lastPending = lastPending := by
  rw [wrote.rest]

theorem Wrote.lastToken_eq {before after : Cache} {view : View} {lastPending : Nat}
    (wrote : before.Wrote after view lastPending) :
    after.store.lastToken = before.store.lastToken := by
  rw [wrote.rest]

theorem Wrote.refl (cache : Cache) :
    cache.Wrote cache cache.store.records.view cache.store.lastPending :=
  ⟨rfl, rfl, fun _ member => .inl member⟩

/-- The draft on which a local update starts. -/
abbrev draft (cache : Cache) : Draft :=
  .start cache.store.records cache.store.lastPending

theorem view_eq_some {cache : Cache} {id : RecordId} {record : Record}
    (found : cache.draft.get? id = some record) :
    cache.store.records.view id = some record.unsignedZeros := by
  rw [Draft.get?_start] at found
  simp [Records.view, found]

theorem view_eq_none {cache : Cache} {id : RecordId} (absent : cache.draft.get? id = none) :
    cache.store.records.view id = none := by
  rw [Draft.get?_start] at absent
  simp [Records.view, absent]

theorem published_of_publish (cache : Cache) (store : Store) (commit : Commit) :
    ∀ publication ∈ (cache.publish store commit).journal,
      publication ∈ cache.journal ∨ publication.records = store.records := by
  intro publication member
  rw [publish] at member
  split at member
  · exact .inl member
  · rcases List.mem_append.mp member with old | new
    · exact .inl old
    · rw [List.mem_singleton.mp new]
      exact .inr rfl

@[simp] theorem store_publish (cache : Cache) (store : Store) (commit : Commit) :
    (cache.publish store commit).store = store := by
  rw [publish]
  split <;> rfl

variable {ε α : Type}

theorem wrote_of_ok {cache : Cache} {edit : Edit ε α} {value : α} {draft : Draft}
    (ran : edit.run cache.draft = (.ok value, draft))
    (base : draft.base = cache.store.records) :
    (cache.update edit).1 = .ok value ∧
      cache.Wrote (cache.update edit).2 draft.view draft.lastPending := by
  have written : cache.store.update edit =
      { result := .ok value
        store := { cache.store with
          records := cache.store.landed draft.staged, lastPending := draft.lastPending }
        commit := .of (cache.store.changes draft.staged) cache.store.subscriptions } := by
    simp only [Store.update, ran]
  refine ⟨by simp [update, written], ?_, ?_, ?_⟩
  · simpa [update, written] using Store.view_landed base
  · simp [update, written]
  · simpa [update, written] using
      published_of_publish cache (cache.store.update edit).store (cache.store.update edit).commit

theorem wrote_of_error {cache : Cache} {edit : Edit ε α} {error : ε} {draft : Draft}
    (ran : edit.run cache.draft = (.error error, draft)) :
    (cache.update edit).1 = .error error ∧
      cache.Wrote (cache.update edit).2 cache.store.records.view draft.lastPending := by
  have written : cache.store.update edit =
      { result := .error error
        store := { cache.store with lastPending := draft.lastPending }
        commit := .empty } := by
    simp only [Store.update, ran]
  refine ⟨by simp [update, written], ?_, ?_, ?_⟩
  · simp [update, written]
  · simp [update, written]
  · simpa [update, written] using
      published_of_publish cache (cache.store.update edit).store (cache.store.update edit).commit

/-- An update that fails before it gives out a pending id leaves everything as it was. -/
theorem update_of_error {cache : Cache} {edit : Edit ε α} {error : ε} {draft : Draft}
    (ran : edit.run cache.draft = (.error error, draft))
    (counted : draft.lastPending = cache.store.lastPending) :
    cache.update edit = (.error error, cache) := by
  have written : cache.store.update edit = ⟨.error error, cache.store, .empty⟩ := by
    simp only [Store.update, ran, counted]
  rw [update, written]
  rfl

end Cache

namespace Draft

@[simp] theorem lastPending_start (base : Records) (lastPending : Nat) :
    (start base lastPending).lastPending = lastPending := rfl

@[simp] theorem view_start (base : Records) (lastPending : Nat) :
    (start base lastPending).view = base.view := by
  funext id
  simp [view, Records.view]

@[simp] theorem base_stage (draft : Draft) (id : RecordId) (next : Option Record) :
    (draft.stage id next).base = draft.base := rfl

@[simp] theorem lastPending_stage (draft : Draft) (id : RecordId) (next : Option Record) :
    (draft.stage id next).lastPending = draft.lastPending := rfl

@[simp] theorem view_stage (draft : Draft) (id : RecordId) (next : Option Record) :
    (draft.stage id next).view =
      Function.update draft.view id (next.map Record.unsignedZeros) := by
  funext other
  by_cases same : other = id
  · subst same
    simp [view]
  · simp [view, get?_stage_of_ne draft next (Ne.symm same), same]

theorem merge_eq_stage (draft : Draft) (id : RecordId) (incoming : Record) :
    draft.merge id incoming =
      draft.stage id (some ((draft.get? id).elim incoming (·.merge incoming))) := by
  rw [merge]
  cases draft.get? id <;> rfl

theorem view_merge (draft : Draft) (id : RecordId) (incoming : Record) :
    (draft.merge id incoming).view = draft.view.merge id incoming.unsignedZeros := by
  rw [merge_eq_stage, view_stage, View.merge, view]
  cases draft.get? id with
  | none => rfl
  | some record => simp [Record.unsignedZeros_merge]

theorem mergeSnapshot_frame (draft : Draft) (snapshot : Snapshot) :
    (draft.mergeSnapshot snapshot).base = draft.base ∧
      (draft.mergeSnapshot snapshot).lastPending = draft.lastPending ∧
      (draft.mergeSnapshot snapshot).view = draft.view.mergeSnapshot snapshot := by
  obtain ⟨entries⟩ := snapshot
  simp only [mergeSnapshot, View.mergeSnapshot]
  induction entries generalizing draft with
  | nil => exact ⟨rfl, rfl, rfl⟩
  | cons entry entries induction =>
      obtain ⟨base, counter, shown⟩ := induction (draft.merge entry.1 entry.2)
      rw [view_merge] at shown
      exact ⟨by rw [List.foldl_cons, base, merge_eq_stage, base_stage],
        by rw [List.foldl_cons, counter, merge_eq_stage, lastPending_stage], shown⟩

end Draft

/-- Merging a snapshot merges its records into the view. -/
theorem Cache.wrote_applySnapshot (cache : Cache) (snapshot : Snapshot) :
    cache.Wrote (cache.applySnapshot snapshot) (cache.store.records.view.mergeSnapshot snapshot)
      cache.store.lastPending := by
  obtain ⟨base, counter, shown⟩ := Draft.mergeSnapshot_frame cache.draft snapshot
  have wrote := (wrote_of_ok (Edit.run_mergeSnapshot (ε := Empty) snapshot cache.draft) base).2
  rw [counter, shown, Draft.view_start, Draft.lastPending_start] at wrote
  exact wrote

end RealmDesk
