import RealmDesk.Proofs.Visit.History

/-!
# Every query is disposed of once

The queries that were disposed of and those that are held are together a permutation of the queries
that were prepared, after every event: a navigation prepares one and moves some from the held ones
to the others, an answer moves some, and nothing else touches them. So when the navigator is closed
every query has been disposed of once.
-/

namespace RealmDesk

namespace Navigator

/-- The queries that are held. -/
def held (navigator : Navigator) : List Slot :=
  navigator.latest.toList ++ navigator.retained.toList

/-- The queries that were disposed of, with those that are held. -/
def accounted (navigator : Navigator) : List Query :=
  navigator.disposed ++ navigator.held.map (·.query)

variable {navigator : Navigator} {url : Url}

/-- A new navigation loses no query that is held. -/
theorem supersede_perm (latest retained : Option Slot) :
    ((supersede latest retained).2 ++ (supersede latest retained).1.toList).Perm
      (latest.toList ++ retained.toList) := by
  cases latest with
  | none => exact .refl _
  | some slot =>
      rw [supersede]
      split
      case isTrue => exact .refl _
      case isFalse => exact List.perm_append_comm

theorem accounted_navigate (navigator : Navigator) (cache : Cache) (url : Url) :
    (navigator.navigate cache url).2.1.accounted.Perm
      (((navigator.table.hit? url).map (·.query (navigator.generation + 1))).toList ++
        navigator.accounted) := by
  let next := supersede navigator.latest navigator.retained
  have kept : (next.2.map (·.query) ++ next.1.toList.map (·.query)).Perm
      (navigator.held.map (·.query)) := by
    rw [← List.map_append]
    exact (supersede_perm navigator.latest navigator.retained).map _
  cases hit : navigator.table.hit? url with
  | none =>
      rw [(navigate_of_none hit cache).2, accounted, List.map_append]
      change ((navigator.disposed ++ _) ++ []).Perm ([] ++ (navigator.disposed ++ _))
      rw [List.append_nil, List.nil_append]
      exact kept.append_left navigator.disposed
  | some place =>
      rw [(navigate_of_some hit cache).2, accounted]
      let query := place.query (navigator.generation + 1)
      have moved : (navigator.disposed ++ next.2.map (·.query) ++ next.1.toList.map (·.query)).Perm
          navigator.accounted := by
        rw [List.append_assoc]
        exact kept.append_left navigator.disposed
      exact List.perm_middle.trans (moved.cons query)

theorem accounted_resolve (navigator : Navigator) (cache : Cache) (generation : Nat)
    (result : ApiResult Json) :
    (navigator.resolve cache generation result).2.1.accounted.Perm navigator.accounted := by
  cases awaited : navigator.awaiting? generation with
  | none => rw [resolve_of_none awaited]
  | some slot =>
      rw [(resolve_of_some awaited cache result).2, accounted, accounted, held, held,
        (awaiting?_eq_some.mp awaited).1, List.append_assoc, List.map_append]
      exact List.perm_append_comm.append_left navigator.disposed

theorem disposed_close (navigator : Navigator) (cache : Cache) :
    (navigator.close cache).1.disposed = navigator.accounted :=
  rfl

end Navigator

namespace History

open Desk (Event)

/-- The queries of all visits, the latest one first. -/
def queries (table : RouteTable) : History → List Query
  | [] => []
  | visit :: earlier => (query? table (visit :: earlier)).toList ++ queries table earlier

variable {table : RouteTable} {history : History} {query : Query}

theorem queries_record (table : RouteTable) (history : History) (event : Event) :
    queries table (record history event) =
      (prepared? table history event).toList ++ queries table history := by
  cases event with
  | navigate url => rfl
  | reload => cases history <;> rfl
  | resolve generation result =>
      cases history with
      | nil => rfl
      | cons visit earlier =>
          rw [record]
          split <;> rfl
  | _ => rfl

theorem mem_queries :
    query ∈ queries table history ↔
      ∃ visit earlier, visit :: earlier <:+ history ∧
        ∃ hit, table.hit? visit.url = some hit ∧ hit.query (earlier.length + 1) = query := by
  induction history with
  | nil => simp [queries]
  | cons visit earlier induction =>
      rw [queries, List.mem_append, Option.mem_toList, query?, Option.map_eq_some_iff, induction]
      constructor
      · rintro (prepared | ⟨other, before, within, prepared⟩)
        · exact ⟨visit, earlier, List.suffix_refl _, prepared⟩
        · exact ⟨other, before, within.trans (List.suffix_cons visit earlier), prepared⟩
      · rintro ⟨other, before, within, prepared⟩
        rcases List.suffix_cons_iff.mp within with same | within
        · obtain ⟨rfl, rfl⟩ := List.cons.inj same
          exact .inl prepared
        · exact .inr ⟨other, before, within, prepared⟩

theorem pairwise_queries (table : RouteTable) (history : History) :
    (queries table history).Pairwise fun later earlier =>
      earlier.generation < later.generation := by
  induction history with
  | nil => exact .nil
  | cons visit earlier induction =>
      refine List.pairwise_append.mpr ⟨?_, induction, ?_⟩
      · cases query? table (visit :: earlier) with
        | none => exact .nil
        | some query => exact List.pairwise_singleton _ _
      · intro latest member other past
        obtain ⟨hit, -, rfl⟩ := Option.map_eq_some_iff.mp (Option.mem_toList.mp member)
        obtain ⟨_, before, within, _, -, rfl⟩ := mem_queries.mp past
        have shorter : before.length + 1 ≤ earlier.length := within.length_le
        exact Nat.lt_succ_of_le shorter

theorem nodup_queries (table : RouteTable) (history : History) : (queries table history).Nodup :=
  (pairwise_queries table history).imp fun lower same => by
    rw [same] at lower
    exact Nat.lt_irrefl _ lower

end History

/-- The page that a status puts on the screen. -/
def Status.page? : Status → Option (Place × FieldMap)
  | .ready place root => some (place, root)
  | .loading _ previous => previous
  | _ => none

theorem Navigator.exists_held_of_page? {navigator : Navigator} {page : Place × FieldMap}
    (shown : navigator.status.page? = some page) :
    ∃ slot ∈ navigator.held, slot.page? = some page := by
  rw [status] at shown
  split at shown
  case isTrue => cases shown
  case isFalse =>
    cases latest : navigator.latest with
    | none => simp [latest, Status.page?] at shown
    | some slot =>
        obtain ⟨query, state⟩ := slot
        rw [latest] at shown
        cases state with
        | loading =>
            obtain ⟨slot, retained, brought⟩ := Option.bind_eq_some_iff.mp shown
            exact ⟨slot, by simp [held, retained], brought⟩
        | ready root token => exact ⟨⟨query, .ready root token⟩, by simp [held, latest], shown⟩
        | failed error => cases shown

/-- Beside a query that has settled no other one is held. -/
theorem History.Mirrors.retained_eq_none {table : RouteTable} {history : History}
    {navigator : Navigator} (mirrors : Mirrors table history navigator) {slot : Slot}
    (present : navigator.latest = some slot) (settled : slot.isLoading = false) :
    navigator.retained = none := by
  have stands : standing? table history = some slot.standing := by
    rw [← mirrors.latest, present]
    rfl
  have outcome : slot.standing.outcome.isNone = false := by
    rw [← settled, slot.isLoading_eq_isNone]
    rfl
  have beside := mirrors.retained
  cases history with
  | nil => cases stands
  | cons visit earlier =>
      rw [beside?, stands, Option.bind_some, outcome] at beside
      exact Option.map_eq_none_iff.mp beside

/-- How a navigator has dealt with the queries of a history. -/
structure History.Dealt (table : RouteTable) (history : History) (navigator : Navigator) :
    Prop where
  /-- No other query was disposed of or is held. -/
  known : ∀ query ∈ navigator.accounted, query ∈ queries table history
  /-- The queries that were not disposed of are those that are held. -/
  undisposed : ∀ query ∈ queries table history,
    query ∉ navigator.disposed ↔ ∃ slot ∈ navigator.held, slot.query = query
  /-- A page is on the screen only as long as its query was not disposed of. -/
  shown : ∀ page, navigator.status.page? = some page →
    ∃ slot ∈ navigator.held, slot.page? = some page ∧ slot.query ∉ navigator.disposed
  /-- Once the latest query has settled no other one is held. -/
  alone : ∀ slot, navigator.latest = some slot → slot.isLoading = false →
    navigator.retained = none

namespace Desk

open History (Mirrors record prepared? queries)

variable {desk : Desk} {table : RouteTable} {history : History}

theorem accounted_step (mirrors : Mirrors table history desk.navigator) (event : Event) :
    (desk.step event).2.navigator.accounted.Perm
      ((prepared? table history event).toList ++ desk.navigator.accounted) := by
  have navigates (url : Url) := desk.navigator.accounted_navigate desk.cache url
  rw [mirrors.routes, mirrors.generation] at navigates
  by_cases aside : event.Aside
  · rw [(record_of_aside table history aside).2, (desk.step_of_aside aside).1]
    exact .refl _
  · cases event with
    | navigate url => exact navigates url
    | reload =>
        have current := mirrors.url
        change (desk.navigator.reload desk.cache).2.1.accounted.Perm _
        rw [Navigator.reload]
        cases history with
        | nil =>
            rw [current]
            exact .refl _
        | cons visit earlier =>
            rw [current]
            exact navigates visit.url
    | resolve generation result =>
        exact desk.navigator.accounted_resolve desk.cache generation result
    | _ => exact absurd trivial aside

theorem accounted_run (mirrors : Mirrors table history desk.navigator)
    (accounted : desk.navigator.accounted.Perm (queries table history)) (events : List Event) :
    (desk.run events).navigator.accounted.Perm (queries table (events.foldl record history)) := by
  induction events generalizing desk history with
  | nil => exact accounted
  | cons event events induction =>
      refine induction (mirrors_step mirrors event).1 ?_
      rw [History.queries_record]
      exact (accounted_step mirrors event).trans (accounted.append_left _)

/-- What a run has to fetch, event by event. -/
def fetches (desk : Desk) : List Event → List Fetch
  | [] => []
  | event :: events => (desk.step event).1.fetch?.toList ++ (desk.step event).2.fetches events

/-- The fetches of a run are those of the queries that it prepares. -/
theorem fetches_run (mirrors : Mirrors table history desk.navigator) (events : List Event) :
    (queries table (events.foldl record history)).reverse.map Query.fetch =
      (queries table history).reverse.map Query.fetch ++ desk.fetches events := by
  induction events generalizing desk history with
  | nil => simp [fetches]
  | cons event events induction =>
      obtain ⟨next, fetched⟩ := mirrors_step mirrors event
      rw [List.foldl_cons, induction next, History.queries_record, fetches, fetched]
      cases prepared? table history event with
      | none => rfl
      | some query => simp

theorem dealt_of_mirrors {navigator : Navigator} (mirrors : Mirrors table history navigator)
    (accounted : navigator.accounted.Perm (queries table history)) :
    History.Dealt table history navigator := by
  have once : navigator.accounted.Nodup :=
    accounted.nodup_iff.mpr (History.nodup_queries table history)
  have apart : ∀ slot ∈ navigator.held, slot.query ∉ navigator.disposed := fun slot held disposed =>
    (List.nodup_append.mp once).2.2 _ disposed _ (List.mem_map_of_mem held) rfl
  constructor
  · intro query known
    exact accounted.mem_iff.mp known
  · intro query prepared
    constructor
    · intro undisposed
      rcases List.mem_append.mp (accounted.mem_iff.mpr prepared) with disposed | held
      · exact absurd disposed undisposed
      · exact List.mem_map.mp held
    · rintro ⟨slot, held, rfl⟩
      exact apart slot held
  · intro page shown
    obtain ⟨slot, held, brought⟩ := Navigator.exists_held_of_page? shown
    exact ⟨slot, held, brought, apart slot held⟩
  · intro slot latest settled
    exact mirrors.retained_eq_none latest settled

/-- Every query is disposed of exactly once. In every run each fetch that was returned belongs to a
query of its own, with a generation of its own, prepared by the route that leads from the URL of
that generation; closing the navigator leaves those queries disposed of, each once, and no others;
and until then the queries that were not disposed of are those that are held, whose pages may be on
the screen. -/
theorem disposed_once (desk : Desk) (table : RouteTable) (events : List Event) :
    let history := History.of events
    let prepared := queries table history
    let after := (desk.opened table).run events
    (desk.opened table).fetches events = prepared.reverse.map Query.fetch ∧
      (prepared.Pairwise fun later earlier => earlier.generation < later.generation) ∧
      (∀ query ∈ prepared, ∃ visit earlier, visit :: earlier <:+ history ∧
        query.generation = earlier.length + 1 ∧
        ∃ route, table.routes[query.routeIndex]? = some route ∧
          route.match? visit.url = some query.place ∧
          query.operation = route.operation query.place) ∧
      (after.navigator.close after.cache).1.disposed.Perm prepared ∧
      History.Dealt table history after.navigator := by
  intro history prepared after
  have start : Mirrors table [] (desk.opened table).navigator := .start table
  have mirrors : Mirrors table history after.navigator := mirrors_run start events
  have accounted : after.navigator.accounted.Perm prepared :=
    accounted_run start (List.Perm.refl []) events
  refine ⟨?_, History.pairwise_queries table history, ?_, ?_, dealt_of_mirrors mirrors accounted⟩
  · exact (fetches_run start events).symm
  · intro query member
    obtain ⟨visit, earlier, within, hit, found, rfl⟩ := History.mem_queries.mp member
    obtain ⟨route, leads⟩ := RouteTable.getElem?_of_hit? found
    exact ⟨visit, earlier, within, rfl, hit.route, route, leads, rfl⟩
  · rw [Navigator.disposed_close]
    exact accounted

end Desk

end RealmDesk
