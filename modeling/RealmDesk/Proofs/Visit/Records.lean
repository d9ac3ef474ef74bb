import RealmDesk.Proofs.Store.Garbage
import RealmDesk.Visit.Navigator

/-!
# What navigation does to the records

Navigation writes records only when an answer arrives. Besides, it gives up roots and collects
garbage, which evicts records but never one that a remaining record links to.
-/

namespace RealmDesk

namespace Navigator

theorem tidied_releaseAll (cache : Cache) (slots : List Slot) :
    cache.Tidied (releaseAll cache slots) := by
  rw [releaseAll]
  induction slots.filterMap Slot.token? generalizing cache with
  | nil => exact .refl cache
  | cons token tokens induction => exact (Cache.Tidied.release cache token).trans (induction _)

theorem tidied_navigate (navigator : Navigator) (cache : Cache) (url : Url) :
    cache.Tidied (navigator.navigate cache url).2.2 := by
  cases hit : navigator.table.hit? url with
  | none =>
      simp only [navigate, hit]
      exact (tidied_releaseAll cache _).trans (.collectGarbage _)
  | some place =>
      simp only [navigate, hit]
      exact tidied_releaseAll cache _

theorem tidied_reload (navigator : Navigator) (cache : Cache) :
    cache.Tidied (navigator.reload cache).2.2 := by
  rw [reload]
  split
  · exact tidied_navigate navigator cache _
  · exact .refl cache

/-- The answer to a fetch is dropped, or its records are merged before the garbage collection, or
there are none in it. -/
theorem resolve_cases (navigator : Navigator) (cache : Cache) (generation : Nat)
    (result : ApiResult Json) :
    let resolved := navigator.resolve cache generation result
    (resolved.1 = .stale ∧ resolved.2.2 = cache) ∨
      (resolved.1 = .applied ∧
        ((∃ normalized middle, Normalized.ofResult result = .ok normalized ∧
          cache.Wrote middle (cache.store.records.view.mergeSnapshot normalized.snapshot)
            cache.store.lastPending ∧ middle.Tidied resolved.2.2) ∨
        ((∃ error, Normalized.ofResult result = .error error) ∧ cache.Tidied resolved.2.2))) := by
  intro resolved
  simp only [resolved, resolve]
  split
  · exact .inl ⟨rfl, rfl⟩
  · refine .inr ⟨rfl, ?_⟩
    cases read : Normalized.ofResult result with
    | error error =>
        rw [settle, read]
        exact .inr ⟨⟨error, rfl⟩, (tidied_releaseAll cache _).trans (.collectGarbage _)⟩
    | ok normalized =>
        rw [settle, read]
        exact .inl ⟨normalized, _, rfl, cache.wrote_applySnapshot normalized.snapshot,
          ((Cache.Tidied.retain _ _).trans (tidied_releaseAll _ _)).trans (.collectGarbage _)⟩

end Navigator

end RealmDesk
