import Mathlib.Data.List.Basic
import RealmDesk.Proofs.Store.Eviction
import RealmDesk.Proofs.Store.Pending
import RealmDesk.Proofs.Visit.Disposal

/-!
# Tokens of loaded pages

The page of a query that is ready is pledged: its roots are retained under the token of the query
for as long as the query is held. Whoever else retains roots has other tokens. Navigation keeps the
tokens in order, since a query that is not held any more has given up its token, and a collection
of garbage spares what is pledged.
-/

namespace RealmDesk

/-- Every record that fields link to, field by field. -/
def FieldMap.targets (fields : FieldMap) : List RecordId :=
  fields.toList.flatMap fun entry => entry.2.targets

theorem FieldMap.mem_targets {fields : FieldMap} {target : RecordId} :
    target ∈ fields.targets ↔
      ∃ (name : String) (value : FieldValue), fields[name]? = some value ∧
        target ∈ value.targets := by
  simp only [targets, List.mem_flatMap, Prod.exists,
    Std.ExtTreeMap.mem_toList_iff_getElem?_eq_some]

/-- Tokens, with the roots that are retained under them. -/
abbrev Tokens := Std.ExtTreeMap Nat (List RecordId)

theorem Tokens.getElem?_insert (tokens : Tokens) (given token : Nat) (roots : List RecordId) :
    (tokens.insert given roots)[token]? = if token = given then some roots else tokens[token]? := by
  by_cases same : token = given
  · rw [same, if_pos rfl, Std.ExtTreeMap.getElem?_insert_self]
  · rw [if_neg same, Std.ExtTreeMap.getElem?_insert, if_neg (by simpa using Ne.symm same)]

theorem Tokens.getElem?_erase (tokens : Tokens) (given token : Nat) :
    (tokens.erase given)[token]? = if token = given then none else tokens[token]? := by
  by_cases same : token = given
  · rw [same, if_pos rfl, Std.ExtTreeMap.getElem?_erase_self]
  · rw [if_neg same, Std.ExtTreeMap.getElem?_erase, if_neg (by simpa using Ne.symm same)]

theorem Slot.exists_token_of_page? (slot : Slot) {place : Place} {root : FieldMap}
    (brought : slot.page? = some (place, root)) : ∃ token, slot.state = .ready root token := by
  rw [page?] at brought
  split at brought
  · next root token ready =>
    obtain ⟨-, rfl⟩ := Prod.mk.inj (Option.some.inj brought)
    exact ⟨token, ready⟩
  · cases brought

/-- The token of a query that is ready, with the roots of its page. -/
def Slot.pledge? (slot : Slot) : Option (Nat × List RecordId) :=
  match slot.state with
  | .ready root token => some (token, root.targets)
  | _ => none

theorem Slot.map_pledge? (slot : Slot) : slot.pledge?.map Prod.fst = slot.token? := by
  rw [pledge?, token?]
  cases slot.state <;> rfl

theorem Slot.pledge?_eq_some {slot : Slot} {token : Nat} {roots : List RecordId} :
    slot.pledge? = some (token, roots) ↔
      ∃ root, slot.state = .ready root token ∧ root.targets = roots := by
  rw [pledge?]
  cases slot.state with
  | ready root own =>
      rw [Option.some.injEq, Prod.mk.injEq]
      constructor
      · rintro ⟨rfl, rfl⟩
        exact ⟨root, rfl, rfl⟩
      · rintro ⟨_, same, rfl⟩
        cases same
        exact ⟨rfl, rfl⟩
  | _ => exact ⟨nofun, fun ⟨_, other, _⟩ => nomatch other⟩

/-- The pledges of the queries that are held. -/
def Navigator.pledges (navigator : Navigator) : List (Nat × List RecordId) :=
  navigator.held.filterMap Slot.pledge?

theorem Navigator.mem_pledges {navigator : Navigator} {token : Nat} {roots : List RecordId} :
    (token, roots) ∈ navigator.pledges ↔
      ∃ slot ∈ navigator.held, ∃ root, slot.state = .ready root token ∧ root.targets = roots := by
  simp only [pledges, List.mem_filterMap, Slot.pledge?_eq_some]

namespace Cache

/-- What is written leaves the tokens alone, and every saved record in its place. -/
structure Spares (before after : Cache) : Prop where
  retained : after.store.retained = before.store.retained
  lastToken : after.store.lastToken = before.store.lastToken
  kept : ∀ text, (before.store.records.view (.persisted text)).isSome →
    (after.store.records.view (.persisted text)).isSome

/-- The live tokens are those that are lent to others and those of some pledges, and the roots of
the pledges are stored. -/
structure Honours (cache : Cache) (lent : Tokens) (pledges : List (Nat × List RecordId)) :
    Prop where
  live : ∀ (token : Nat) (roots : List RecordId), cache.store.retained[token]? = some roots ↔
    (token, roots) ∈ pledges ∨ lent[token]? = some roots
  /-- No token is pledged and lent. -/
  apart : ∀ pledge ∈ pledges, lent[pledge.1]? = none
  distinct : (pledges.map Prod.fst).Nodup
  /-- Every live token was given out. -/
  counted : ∀ (token : Nat) (roots : List RecordId), cache.store.retained[token]? = some roots →
    token ≤ cache.store.lastToken
  stored : ∀ pledge ∈ pledges, ∀ id ∈ pledge.2,
    ∃ text, id = .persisted text ∧ (cache.store.records.view id).isSome

namespace Spares

variable {before middle after : Cache}

theorem refl (cache : Cache) : cache.Spares cache :=
  ⟨rfl, rfl, fun _ present => present⟩

theorem trans (first : before.Spares middle) (second : middle.Spares after) :
    before.Spares after := by
  constructor
  · exact second.retained.trans first.retained
  · exact second.lastToken.trans first.lastToken
  · exact fun text present => second.kept text (first.kept text present)

theorem of_wrote {view : View} {lastPending : Nat} (wrote : before.Wrote after view lastPending)
    (kept : ∀ text, (before.store.records.view (.persisted text)).isSome →
      (view (.persisted text)).isSome) : before.Spares after := by
  constructor
  · rw [wrote.rest]
  · rw [wrote.rest]
  · rw [wrote.view]
    exact kept

end Spares

namespace Honours

variable {cache after : Cache} {lent : Tokens} {pledges others : List (Nat × List RecordId)}

theorem perm (honours : cache.Honours lent pledges) (same : pledges.Perm others) :
    cache.Honours lent others := by
  constructor
  · intro token roots
    rw [honours.live, same.mem_iff]
  · exact fun pledge member => honours.apart pledge (same.mem_iff.mpr member)
  · exact (same.map Prod.fst).nodup_iff.mp honours.distinct
  · exact honours.counted
  · exact fun pledge member => honours.stored pledge (same.mem_iff.mpr member)

theorem spares (honours : cache.Honours lent pledges) (spares : cache.Spares after) :
    after.Honours lent pledges := by
  constructor
  · rw [spares.retained]
    exact honours.live
  · exact honours.apart
  · exact honours.distinct
  · rw [spares.retained, spares.lastToken]
    exact honours.counted
  · intro pledge member id root
    obtain ⟨text, rfl, present⟩ := honours.stored pledge member id root
    exact ⟨text, rfl, spares.kept text present⟩

theorem fresh (honours : cache.Honours lent pledges) {token : Nat} {roots : List RecordId}
    (live : (token, roots) ∈ pledges ∨ lent[token]? = some roots) :
    token ≠ cache.store.lastToken + 1 := by
  have bound := honours.counted token roots ((honours.live token roots).mpr live)
  omega

theorem getElem?_retain (cache : Cache) (roots : List RecordId) (token : Nat) :
    (cache.retain roots).2.store.retained[token]? =
      if token = cache.store.lastToken + 1 then some roots else cache.store.retained[token]? :=
  Tokens.getElem?_insert ..

theorem counted_retain (honours : cache.Honours lent pledges) (roots : List RecordId)
    (token : Nat) (found : List RecordId)
    (live : (cache.retain roots).2.store.retained[token]? = some found) :
    token ≤ cache.store.lastToken + 1 := by
  rw [getElem?_retain] at live
  split at live
  case isTrue same => exact Nat.le_of_eq same
  case isFalse => exact Nat.le_succ_of_le (honours.counted token found live)

theorem retain (honours : cache.Honours lent pledges) {roots : List RecordId}
    (stored : ∀ id ∈ roots,
      ∃ text, id = .persisted text ∧ (cache.store.records.view id).isSome) :
    (cache.retain roots).2.Honours lent ((cache.store.lastToken + 1, roots) :: pledges) := by
  constructor
  · intro token found
    rw [getElem?_retain, List.mem_cons, Prod.mk.injEq, or_assoc, ← honours.live]
    split
    case isTrue same =>
      constructor
      · intro retained
        exact .inl ⟨same, (Option.some.inj retained).symm⟩
      · rintro (⟨-, rfl⟩ | old)
        · rfl
        · exact absurd same (honours.fresh ((honours.live token found).mp old))
    case isFalse other => simp only [other, false_and, false_or]
  · intro pledge member
    rcases List.mem_cons.mp member with rfl | old
    · rw [Option.eq_none_iff_forall_ne_some]
      exact fun found live => honours.fresh (.inr live) rfl
    · exact honours.apart pledge old
  · rw [List.map_cons, List.nodup_cons]
    refine ⟨fun member => ?_, honours.distinct⟩
    obtain ⟨⟨token, found⟩, old, same⟩ := List.mem_map.mp member
    exact honours.fresh (.inl old) same
  · exact honours.counted_retain roots
  · intro pledge member
    rcases List.mem_cons.mp member with rfl | old
    · exact stored
    · exact honours.stored pledge old

theorem lend (honours : cache.Honours lent pledges) (roots : List RecordId) :
    (cache.retain roots).2.Honours (lent.insert (cache.store.lastToken + 1) roots) pledges := by
  constructor
  · intro token found
    rw [getElem?_retain, Tokens.getElem?_insert]
    split
    case isTrue same =>
      constructor
      · exact .inr
      · rintro (pledged | retained)
        · exact absurd same (honours.fresh (.inl pledged))
        · exact retained
    case isFalse => exact honours.live token found
  · intro pledge member
    have other : pledge.1 ≠ cache.store.lastToken + 1 := honours.fresh (.inl member)
    rw [Tokens.getElem?_insert, if_neg other]
    exact honours.apart pledge member
  · exact honours.distinct
  · exact honours.counted_retain roots
  · exact honours.stored

theorem getElem?_release (cache : Cache) (released token : Nat) :
    (cache.release released).2.store.retained[token]? =
      if token = released then none else cache.store.retained[token]? :=
  Tokens.getElem?_erase ..

theorem counted_release (honours : cache.Honours lent pledges) (released token : Nat)
    (found : List RecordId)
    (live : (cache.release released).2.store.retained[token]? = some found) :
    token ≤ cache.store.lastToken := by
  rw [getElem?_release] at live
  split at live
  case isTrue => cases live
  case isFalse => exact honours.counted token found live

theorem release {pledge : Nat × List RecordId} (honours : cache.Honours lent (pledge :: pledges)) :
    (cache.release pledge.1).2.Honours lent pledges := by
  obtain ⟨once, distinct⟩ := List.nodup_cons.mp honours.distinct
  constructor
  · intro token found
    rw [getElem?_release]
    split
    case isTrue same =>
      subst same
      refine ⟨nofun, ?_⟩
      rintro (pledged | retained)
      · exact absurd (List.mem_map_of_mem pledged) once
      · have apart := honours.apart pledge List.mem_cons_self
        rw [apart] at retained
        cases retained
    case isFalse other =>
      rw [honours.live, List.mem_cons]
      have different : (token, found) ≠ pledge := fun same => other (congrArg Prod.fst same)
      simp only [different, false_or]
  · exact fun other member => honours.apart other (List.mem_cons_of_mem _ member)
  · exact distinct
  · exact honours.counted_release pledge.1
  · exact fun other member => honours.stored other (List.mem_cons_of_mem _ member)

theorem giveBack (honours : cache.Honours lent pledges) {token : Nat}
    (unpledged : token ∉ pledges.map Prod.fst) :
    (cache.release token).2.Honours (lent.erase token) pledges := by
  constructor
  · intro other found
    rw [getElem?_release, Tokens.getElem?_erase]
    split
    case isTrue same =>
      subst same
      refine ⟨nofun, ?_⟩
      rintro (pledged | gone)
      · exact absurd (List.mem_map_of_mem pledged) unpledged
      · cases gone
    case isFalse => exact honours.live other found
  · intro pledge member
    rw [Tokens.getElem?_erase]
    split
    · rfl
    · exact honours.apart pledge member
  · exact honours.distinct
  · exact honours.counted_release token
  · exact honours.stored

theorem releases (honours : cache.Honours lent (others ++ pledges)) :
    ((others.map Prod.fst).foldl (fun cache token => (cache.release token).2) cache).Honours lent
      pledges := by
  induction others generalizing cache with
  | nil => exact honours
  | cons pledge others induction => exact induction honours.release

theorem collectGarbage (honours : cache.Honours lent pledges) :
    cache.collectGarbage.2.Honours lent pledges := by
  constructor
  · exact honours.live
  · exact honours.apart
  · exact honours.distinct
  · exact honours.counted
  · intro pledge member id root
    obtain ⟨text, rfl, present⟩ := honours.stored pledge member id root
    have live := (honours.live pledge.1 pledge.2).mpr (.inl member)
    have spared : cache.collectGarbage.2.store.records[RecordId.persisted text]? =
        cache.store.records[RecordId.persisted text]? :=
      Store.getElem?_collectGarbage_of_alive (.retained live root)
    refine ⟨text, rfl, ?_⟩
    rw [Records.view, spared]
    exact present

end Honours

end Cache

/-! ## Navigation -/

namespace Navigator

open Cache (Honours)

variable {navigator : Navigator} {cache : Cache} {lent : Tokens}

theorem honours_releaseAll {slots : List Slot} {pledges : List (Nat × List RecordId)}
    (honours : cache.Honours lent (slots.filterMap Slot.pledge? ++ pledges)) :
    (releaseAll cache slots).Honours lent pledges := by
  have tokens : slots.filterMap Slot.token? = (slots.filterMap Slot.pledge?).map Prod.fst := by
    rw [List.map_filterMap]
    exact List.filterMap_congr fun slot _ => slot.map_pledge?.symm
  rw [releaseAll, tokens]
  exact honours.releases

/-- A navigation gives up the tokens of the queries that it disposes of. -/
theorem honours_navigate (honours : cache.Honours lent navigator.pledges) (url : Url) :
    (navigator.navigate cache url).2.2.Honours lent (navigator.navigate cache url).2.1.pledges := by
  let next := supersede navigator.latest navigator.retained
  have kept : (navigator.pledges).Perm
      (next.2.filterMap Slot.pledge? ++ next.1.toList.filterMap Slot.pledge?) := by
    rw [← List.filterMap_append]
    exact ((supersede_perm navigator.latest navigator.retained).filterMap _).symm
  cases hit : navigator.table.hit? url with
  | none =>
      have released : (releaseAll cache (next.2 ++ next.1.toList)).Honours lent [] := by
        apply honours_releaseAll
        rw [List.append_nil, List.filterMap_append]
        exact honours.perm kept
      rw [(navigate_of_none hit cache).2, navigate, hit]
      exact released.collectGarbage
  | some place =>
      have released : (releaseAll cache next.2).Honours lent
          (next.1.toList.filterMap Slot.pledge?) :=
        honours_releaseAll (honours.perm kept)
      rw [(navigate_of_some hit cache).2, navigate, hit]
      exact released

theorem honours_reload (honours : cache.Honours lent navigator.pledges) :
    (navigator.reload cache).2.2.Honours lent (navigator.reload cache).2.1.pledges := by
  rw [reload]
  split
  · exact honours_navigate honours _
  · exact honours

theorem stored_of_read {result : ApiResult Json} {normalized : Normalized}
    (read : Normalized.ofResult result = .ok normalized) (cache : Cache) :
    ∀ id ∈ normalized.root.targets, ∃ text, id = .persisted text ∧
      ((cache.applySnapshot normalized.snapshot).store.records.view id).isSome := by
  intro id linked
  obtain ⟨closed, roots⟩ := Normalized.closed_of_ofResult read
  obtain ⟨field, value, named, member⟩ := FieldMap.mem_targets.mp linked
  have listed := roots field value named id member
  rw [(cache.wrote_applySnapshot normalized.snapshot).view, View.isSome_mergeSnapshot]
  obtain ⟨text, rfl⟩ := RecordId.exists_eq_persisted (closed.isPending_eq_false listed)
  exact ⟨text, rfl, .inr listed⟩

theorem spares_applySnapshot (cache : Cache) (snapshot : Snapshot) :
    cache.Spares (cache.applySnapshot snapshot) := by
  apply Cache.Spares.of_wrote (cache.wrote_applySnapshot snapshot)
  intro text present
  exact (View.isSome_mergeSnapshot ..).mpr (.inl present)

/-- An answer pledges the page that it brings, and gives up that of the page before. -/
theorem honours_resolve (honours : cache.Honours lent navigator.pledges) (generation : Nat)
    (result : ApiResult Json) :
    (navigator.resolve cache generation result).2.2.Honours lent
      (navigator.resolve cache generation result).2.1.pledges := by
  cases awaited : navigator.awaiting? generation with
  | none =>
      rw [resolve_of_none awaited]
      exact honours
  | some slot =>
      obtain ⟨latest, -, loading⟩ := awaiting?_eq_some.mp awaited
      have unpledged : slot.pledge? = none := by
        rw [Slot.pledge?]
        rw [Slot.isLoading] at loading
        split at loading
        · next same => rw [same]
        · cases loading
      have before : navigator.pledges = navigator.retained.toList.filterMap Slot.pledge? := by
        rw [pledges, held, latest, Option.toList_some, List.singleton_append,
          List.filterMap_cons_none unpledged]
      rw [before] at honours
      cases read : Normalized.ofResult result with
      | error error =>
          have released : (releaseAll cache navigator.retained.toList).Honours lent [] :=
            honours_releaseAll (by rwa [List.append_nil])
          rw [(resolve_of_some awaited cache result).2, resolve, awaited]
          simp only [settle, read]
          exact released.collectGarbage
      | ok normalized =>
          have merged := honours.spares (spares_applySnapshot cache normalized.snapshot)
          -- The new page is pledged before the one before it is given up and garbage is collected.
          have pledged := merged.retain (stored_of_read read cache)
          have released : (releaseAll _ navigator.retained.toList).Honours lent [_] :=
            honours_releaseAll (pledged.perm (List.perm_append_singleton _ _).symm)
          rw [(resolve_of_some awaited cache result).2, resolve, awaited]
          simp only [settle, read]
          exact released.collectGarbage

/-- A navigator that is closed leaves the tokens of others only. -/
theorem retained_close (honours : cache.Honours lent navigator.pledges) :
    (navigator.close cache).2.store.retained = lent := by
  have released : (navigator.close cache).2.Honours lent [] :=
    honours_releaseAll (by rwa [List.append_nil])
  apply Std.ExtTreeMap.ext_getElem?
  intro token
  ext roots
  rw [released.live]
  simp

end Navigator

end RealmDesk
