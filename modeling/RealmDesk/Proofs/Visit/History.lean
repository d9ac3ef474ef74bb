import RealmDesk.Desk

/-!
# What navigation shows is a function of the history

The history of a run is the list of the URLs that were navigated to, each with the results that came
for it until the next one. Everything else that happens at the desk leaves the navigator alone, and
so do results for other generations than the latest. The navigator holds at most two queries of the
history, the latest one and the one that settled last; what it shows is read off the history.
-/

namespace RealmDesk

/-- What has to be fetched on behalf of a query. -/
def Query.fetch (query : Query) : Fetch :=
  ⟨query.generation, query.operation⟩

/-- The query that the route of a hit prepares on behalf of a generation. -/
def Hit.query (hit : Hit) (generation : Nat) : Query :=
  ⟨generation, hit.index, hit.place, hit.route.operation hit.place⟩

/-- A navigation, with the results that came for it before the next one, first one first. -/
structure Visit where
  /-- The URL that was navigated to. -/
  url : Url
  /-- The results. -/
  results : List (ApiResult Json)

/-- What the first result of a visit brought: root fields, or an error. -/
def Visit.outcome? (visit : Visit) : Option (Except ApiError FieldMap) :=
  visit.results.head?.map fun result => (Normalized.ofResult result).map (·.root)

/-- The visit with another result. -/
def Visit.add (visit : Visit) (result : ApiResult Json) : Visit :=
  { visit with results := visit.results ++ [result] }

theorem Visit.outcome?_eq_none {visit : Visit} : visit.outcome? = none ↔ visit.results = [] := by
  rw [outcome?, Option.map_eq_none_iff, List.head?_eq_none_iff]

theorem Visit.outcome?_add_of_nil {visit : Visit} (fresh : visit.results = [])
    (result : ApiResult Json) :
    (visit.add result).outcome? = some ((Normalized.ofResult result).map (·.root)) := by
  rw [outcome?, add, fresh]
  rfl

theorem Visit.outcome?_add_of_ne_nil {visit : Visit} (heard : visit.results ≠ [])
    (result : ApiResult Json) : (visit.add result).outcome? = visit.outcome? := by
  obtain ⟨first, rest, same⟩ := List.exists_cons_of_ne_nil heard
  rw [outcome?, outcome?, add, same]
  rfl

/-- The visits of a run, the latest one first. The first visit of a run has generation one. -/
abbrev History := List Visit

namespace History

open Desk (Event)

/-- The history after an event. -/
def record (history : History) : Event → History
  | .navigate url => ⟨url, []⟩ :: history
  | .reload =>
      match history with
      | [] => []
      | visit :: earlier => ⟨visit.url, []⟩ :: visit :: earlier
  | .resolve generation result =>
      match history with
      | [] => []
      | visit :: earlier =>
          if generation = earlier.length + 1 then visit.add result :: earlier
          else visit :: earlier
  | _ => history

/-- The history of a run. -/
def of (events : List Event) : History :=
  events.foldl record []

variable (table : RouteTable)

/-- The latest visit has a generation, leads to a place and has no result yet. -/
def Awaits (generation : Nat) : History → Prop
  | [] => False
  | visit :: earlier =>
      generation = earlier.length + 1 ∧ (table.hit? visit.url).isSome ∧ visit.results = []

/-- The page that was loaded last. Neither a failed visit nor a URL that leads nowhere leaves an
earlier page behind. -/
def lastPage? : History → Option (Place × FieldMap)
  | [] => none
  | visit :: earlier =>
      match table.hit? visit.url, visit.outcome? with
      | none, _ => none
      | some _, none => lastPage? earlier
      | some hit, some (.ok root) => some (hit.place, root)
      | some _, some (.error _) => none

/-- What a history shows. -/
def status : History → Status
  | [] => .idle
  | visit :: earlier =>
      match table.hit? visit.url, visit.outcome? with
      | none, _ => .notFound
      | some hit, none => .loading hit.place (lastPage? table earlier)
      | some hit, some (.ok root) => .ready hit.place root
      | some hit, some (.error error) => .failed hit.place error

/-- The query of the latest visit, if its URL leads to a place. -/
def query? : History → Option Query
  | [] => none
  | visit :: earlier =>
      (table.hit? visit.url).map (·.query (earlier.length + 1))

/-- The query that an event prepares. -/
def prepared? (history : History) : Event → Option Query
  | .navigate url => query? table (⟨url, []⟩ :: history)
  | .reload =>
      match history with
      | [] => none
      | visit :: earlier => query? table (⟨visit.url, []⟩ :: visit :: earlier)
  | _ => none

end History

/-- A query with what came of it, if anything did yet. -/
structure Standing where
  /-- The query. -/
  query : Query
  /-- What came of it. -/
  outcome : Option (Except ApiError FieldMap)

def QueryState.outcome? : QueryState → Option (Except ApiError FieldMap)
  | .loading => none
  | .ready root _ => some (.ok root)
  | .failed error => some (.error error)

def Slot.standing (slot : Slot) : Standing :=
  ⟨slot.query, slot.state.outcome?⟩

/-- The page that a query brought. -/
def Standing.page? (standing : Standing) : Option (Place × FieldMap) :=
  match standing.outcome with
  | some (.ok root) => some (standing.query.place, root)
  | _ => none

theorem Slot.page?_eq (slot : Slot) : slot.page? = slot.standing.page? := by
  rw [page?, Standing.page?, standing]
  cases slot.state <;> rfl

theorem Slot.isLoading_eq_isNone (slot : Slot) :
    slot.isLoading = slot.state.outcome?.isNone := by
  rw [isLoading]
  cases slot.state <;> rfl

namespace Navigator

variable {navigator : Navigator} {url : Url}

theorem navigate_of_none (absent : navigator.table.hit? url = none) (cache : Cache) :
    let next := supersede navigator.latest navigator.retained
    (navigator.navigate cache url).1 = none ∧
      (navigator.navigate cache url).2.1 =
        { navigator with
          generation := navigator.generation + 1
          url := some url
          latest := none
          retained := none
          notFound := true
          disposed := navigator.disposed ++ (next.2 ++ next.1.toList).map (·.query) } := by
  rw [navigate, absent]
  exact ⟨rfl, rfl⟩

theorem navigate_of_some {hit : Hit} (found : navigator.table.hit? url = some hit)
    (cache : Cache) :
    let next := supersede navigator.latest navigator.retained
    let query := hit.query (navigator.generation + 1)
    (navigator.navigate cache url).1 = some query.fetch ∧
      (navigator.navigate cache url).2.1 =
        { navigator with
          generation := navigator.generation + 1
          url := some url
          latest := some ⟨query, .loading⟩
          retained := next.1
          notFound := false
          disposed := navigator.disposed ++ next.2.map (·.query) } := by
  rw [navigate, found]
  exact ⟨rfl, rfl⟩

theorem resolve_of_none {generation : Nat} (stale : navigator.awaiting? generation = none)
    (cache : Cache) (result : ApiResult Json) :
    navigator.resolve cache generation result = (.stale, navigator, cache) := by
  rw [resolve, stale]

theorem resolve_of_some {generation : Nat} {slot : Slot}
    (awaited : navigator.awaiting? generation = some slot) (cache : Cache)
    (result : ApiResult Json) :
    (navigator.resolve cache generation result).1 = .applied ∧
      (navigator.resolve cache generation result).2.1 =
        { navigator with
          latest := some { slot with state := (settle cache result).1 }
          retained := none
          disposed := navigator.disposed ++ navigator.retained.toList.map (·.query) } := by
  rw [resolve, awaited]
  exact ⟨rfl, rfl⟩

theorem outcome?_settle (cache : Cache) (result : ApiResult Json) :
    (settle cache result).1.outcome? = some ((Normalized.ofResult result).map (·.root)) := by
  rw [settle]
  cases Normalized.ofResult result <;> rfl

theorem awaiting?_eq_some {generation : Nat} {slot : Slot} :
    navigator.awaiting? generation = some slot ↔
      navigator.latest = some slot ∧ slot.query.generation = generation ∧
        slot.isLoading = true := by
  rw [awaiting?, Option.filter_eq_some_iff, Bool.and_eq_true, beq_iff_eq]

end Navigator

/-! ## The queries that are held -/

namespace History

variable (table : RouteTable)

/-- How the query of the latest visit stands. -/
def standing? : History → Option Standing
  | [] => none
  | visit :: earlier => (query? table (visit :: earlier)).map (⟨·, visit.outcome?⟩)

/-- The settled query that a next navigation keeps. -/
def kept? : History → Option Standing
  | [] => none
  | visit :: earlier =>
      (standing? table (visit :: earlier)).bind fun standing =>
        if standing.outcome.isNone then kept? earlier else some standing

/-- The settled query beside the one of the latest visit, as long as that one loads. -/
def beside? : History → Option Standing
  | [] => none
  | visit :: earlier =>
      (standing? table (visit :: earlier)).bind fun standing =>
        if standing.outcome.isNone then kept? table earlier else none

/-- A navigator holds the queries of a history. -/
structure Mirrors (history : History) (navigator : Navigator) : Prop where
  routes : navigator.table = table
  generation : navigator.generation = history.length
  url : navigator.url = history.head?.map (·.url)
  notFound : navigator.notFound = history.head?.any fun visit => (table.hit? visit.url).isNone
  latest : navigator.latest.map Slot.standing = standing? table history
  retained : navigator.retained.map Slot.standing = beside? table history

variable {table : RouteTable} {history : History} {navigator : Navigator}

theorem standing?_eq_some {visit : Visit} {earlier : History} {standing : Standing} :
    standing? table (visit :: earlier) = some standing ↔
      ∃ hit, table.hit? visit.url = some hit ∧
        standing = ⟨hit.query (earlier.length + 1), visit.outcome?⟩ := by
  rw [standing?, query?, Option.map_map, Option.map_eq_some_iff]
  exact exists_congr fun hit => and_congr_right fun _ => eq_comm

/-- The query that a navigation keeps is the one that settled last. -/
theorem map_supersede {latest retained : Option Slot}
    (latestOf : latest.map Slot.standing = standing? table history)
    (retainedOf : retained.map Slot.standing = beside? table history) :
    (Navigator.supersede latest retained).1.map Slot.standing = kept? table history := by
  cases history with
  | nil =>
      obtain rfl := Option.map_eq_none_iff.mp latestOf
      exact retainedOf
  | cons visit earlier =>
      rw [beside?, ← latestOf] at retainedOf
      rw [kept?, ← latestOf]
      cases latest with
      | none => exact retainedOf
      | some slot =>
          have loading : slot.standing.outcome.isNone = slot.isLoading :=
            slot.isLoading_eq_isNone.symm
          rw [Option.map_some, Option.bind_some, loading] at retainedOf ⊢
          rw [Navigator.supersede]
          cases loads : slot.isLoading with
          | true =>
              rw [loads] at retainedOf
              exact retainedOf
          | false => rfl

theorem Mirrors.start (table : RouteTable) : Mirrors table [] { table } :=
  ⟨rfl, rfl, rfl, rfl, rfl, rfl⟩

/-- A navigation opens a visit, and returns what its query has to fetch. -/
theorem Mirrors.navigate (mirrors : Mirrors table history navigator) (cache : Cache) (url : Url) :
    Mirrors table (⟨url, []⟩ :: history) (navigator.navigate cache url).2.1 ∧
      (navigator.navigate cache url).1 =
        (prepared? table history (.navigate url)).map Query.fetch := by
  have kept := map_supersede mirrors.latest mirrors.retained
  obtain ⟨rfl, generation⟩ := And.intro mirrors.routes mirrors.generation
  cases hit : navigator.table.hit? url with
  | none =>
      obtain ⟨fetch, moved⟩ := Navigator.navigate_of_none hit cache
      rw [fetch, moved, generation]
      refine ⟨⟨rfl, rfl, rfl, ?_, ?_, ?_⟩, ?_⟩
      · simp [hit]
      · simp [standing?, query?, hit]
      · simp [beside?, standing?, query?, hit]
      · simp [prepared?, query?, hit]
  | some place =>
      obtain ⟨fetch, moved⟩ := Navigator.navigate_of_some hit cache
      rw [fetch, moved, generation]
      refine ⟨⟨rfl, rfl, rfl, ?_, ?_, ?_⟩, ?_⟩
      · simp [hit]
      · simp [standing?, query?, hit, Slot.standing, QueryState.outcome?, Visit.outcome?]
      · simpa [beside?, standing?, query?, hit, Visit.outcome?] using kept
      · simp [prepared?, query?, hit]

theorem Mirrors.reload (mirrors : Mirrors table history navigator) (cache : Cache) :
    Mirrors table (record history .reload) (navigator.reload cache).2.1 ∧
      (navigator.reload cache).1 = (prepared? table history .reload).map Query.fetch := by
  have current := mirrors.url
  rw [Navigator.reload]
  cases history with
  | nil =>
      rw [current]
      exact ⟨mirrors, rfl⟩
  | cons visit earlier =>
      rw [current]
      exact mirrors.navigate cache visit.url

section Latest

variable {visit : Visit} {earlier : History} (mirrors : Mirrors table (visit :: earlier) navigator)
include mirrors

theorem Mirrors.leads_of_latest {slot : Slot} (present : navigator.latest = some slot) :
    ∃ hit, table.hit? visit.url = some hit ∧ slot.query = hit.query (earlier.length + 1) ∧
      slot.state.outcome? = visit.outcome? := by
  have latest := mirrors.latest
  rw [present, Option.map_some, eq_comm, standing?_eq_some] at latest
  obtain ⟨hit, found, same⟩ := latest
  exact ⟨hit, found, congrArg Standing.query same, congrArg Standing.outcome same⟩

theorem Mirrors.latest_of_leads {hit : Hit} (found : table.hit? visit.url = some hit) :
    ∃ slot, navigator.latest = some slot ∧ slot.query = hit.query (earlier.length + 1) ∧
      slot.state.outcome? = visit.outcome? := by
  have latest := mirrors.latest
  rw [standing?_eq_some.mpr ⟨hit, found, rfl⟩, Option.map_eq_some_iff] at latest
  obtain ⟨slot, present, same⟩ := latest
  exact ⟨slot, present, congrArg Standing.query same, congrArg Standing.outcome same⟩

end Latest

theorem Mirrors.isSome_awaiting? (mirrors : Mirrors table history navigator) (generation : Nat) :
    (navigator.awaiting? generation).isSome ↔ Awaits table generation history := by
  cases history with
  | nil =>
      rw [Navigator.awaiting?, Option.map_eq_none_iff.mp mirrors.latest]
      exact ⟨nofun, nofun⟩
  | cons visit earlier =>
      constructor
      · intro awaited
        obtain ⟨slot, found⟩ := Option.isSome_iff_exists.mp awaited
        obtain ⟨present, rfl, loads⟩ := Navigator.awaiting?_eq_some.mp found
        obtain ⟨hit, found, query, outcome⟩ := mirrors.leads_of_latest present
        rw [slot.isLoading_eq_isNone, outcome, Option.isNone_iff_eq_none] at loads
        exact ⟨congrArg Query.generation query, Option.isSome_of_eq_some found,
          Visit.outcome?_eq_none.mp loads⟩
      · rintro ⟨rfl, leads, fresh⟩
        obtain ⟨hit, found⟩ := Option.isSome_iff_exists.mp leads
        obtain ⟨slot, present, query, outcome⟩ := mirrors.latest_of_leads found
        have loads : slot.isLoading = true := by
          rw [slot.isLoading_eq_isNone, outcome, Visit.outcome?_eq_none.mpr fresh]
          rfl
        have generation : slot.query.generation = earlier.length + 1 :=
          congrArg Query.generation query
        exact Option.isSome_of_eq_some
          (Navigator.awaiting?_eq_some.mpr ⟨present, generation, loads⟩)

/-- A result that the history does not await changes nothing. -/
theorem standing?_add_of_not_awaits {visit : Visit} {earlier : History}
    (ignored : ¬Awaits table (earlier.length + 1) (visit :: earlier)) (result : ApiResult Json) :
    standing? table (visit.add result :: earlier) = standing? table (visit :: earlier) := by
  cases leads : table.hit? visit.url with
  | none => simp [standing?, query?, Visit.add, leads]
  | some hit =>
      have heard : visit.results ≠ [] := fun fresh =>
        ignored ⟨rfl, Option.isSome_of_eq_some leads, fresh⟩
      rw [standing?, standing?, Visit.outcome?_add_of_ne_nil heard]
      rfl

/-- The first result for the latest visit settles its query, and no other result does anything. -/
theorem Mirrors.resolve (mirrors : Mirrors table history navigator) (cache : Cache)
    (generation : Nat) (result : ApiResult Json) :
    Mirrors table (record history (.resolve generation result))
      (navigator.resolve cache generation result).2.1 := by
  have awaits := mirrors.isSome_awaiting? generation
  cases history with
  | nil =>
      have stale : navigator.awaiting? generation = none :=
        Option.not_isSome_iff_eq_none.mp awaits.mp
      rw [Navigator.resolve_of_none stale]
      exact mirrors
  | cons visit earlier =>
      rw [record]
      cases awaited : navigator.awaiting? generation with
      | none =>
          rw [awaited] at awaits
          rw [Navigator.resolve_of_none awaited]
          split
          case isFalse => exact mirrors
          case isTrue same =>
            have unheeded := standing?_add_of_not_awaits (fun awaited =>
              absurd (awaits.mpr (same ▸ awaited)) nofun) result
            refine ⟨mirrors.routes, mirrors.generation, mirrors.url, mirrors.notFound, ?_, ?_⟩
            · rw [unheeded]
              exact mirrors.latest
            · rw [beside?, unheeded]
              exact mirrors.retained
      | some slot =>
          rw [awaited] at awaits
          obtain ⟨same, -, fresh⟩ := awaits.mp rfl
          obtain ⟨-, settled⟩ := Navigator.resolve_of_some awaited cache result
          obtain ⟨present, -, -⟩ := Navigator.awaiting?_eq_some.mp awaited
          obtain ⟨hit, found, query, -⟩ := mirrors.leads_of_latest present
          have stands : standing? table (visit.add result :: earlier) =
              some ⟨slot.query, (Navigator.settle cache result).1.outcome?⟩ := by
            refine standing?_eq_some.mpr ⟨hit, found, ?_⟩
            rw [Navigator.outcome?_settle, Visit.outcome?_add_of_nil fresh, query]
          rw [if_pos same, settled]
          refine ⟨mirrors.routes, mirrors.generation, mirrors.url, mirrors.notFound, ?_, ?_⟩
          · exact stands.symm
          · rw [beside?, stands, Navigator.outcome?_settle]
            rfl

theorem bind_page?_kept? (table : RouteTable) (history : History) :
    (kept? table history).bind Standing.page? = lastPage? table history := by
  induction history with
  | nil => rfl
  | cons visit earlier induction =>
      rw [kept?, standing?, query?, lastPage?]
      cases table.hit? visit.url with
      | none => rfl
      | some hit =>
          cases outcome : visit.outcome? with
          | none => exact induction
          | some brought => cases brought <;> rfl

theorem Mirrors.status_eq (mirrors : Mirrors table history navigator) :
    navigator.status = status table history := by
  cases history with
  | nil =>
      rw [Navigator.status, mirrors.notFound, Option.map_eq_none_iff.mp mirrors.latest]
      rfl
  | cons visit earlier =>
      have notFound : navigator.notFound = (table.hit? visit.url).isNone := mirrors.notFound
      rw [Navigator.status, notFound, status]
      cases found : table.hit? visit.url with
      | none => rfl
      | some hit =>
          obtain ⟨⟨own, state⟩, present, rfl, outcome⟩ := mirrors.latest_of_leads found
          rw [present, ← outcome]
          cases state with
          | loading =>
              have kept : navigator.retained.map Slot.standing = kept? table earlier := by
                rw [mirrors.retained, beside?, standing?_eq_some.mpr ⟨hit, found, rfl⟩, ← outcome]
                rfl
              have previous : navigator.retained.bind Slot.page? = lastPage? table earlier := by
                rw [← bind_page?_kept?, ← kept, Option.bind_map]
                exact Option.bind_congr fun _ _ => Slot.page?_eq _
              exact congrArg (Status.loading hit.place) previous
          | ready root token => rfl
          | failed error => rfl

end History

/-! ## Runs of the desk -/

namespace Desk

open History (Mirrors record prepared?)

/-- A desk at which navigation begins. -/
def opened (desk : Desk) (table : RouteTable) : Desk :=
  { desk with navigator := { table } }

/-- What an outcome has to fetch. -/
def Outcome.fetch? : Outcome → Option Fetch
  | .fetch wanted => wanted
  | _ => none

/-- An event that is not about navigation. -/
def Event.Aside : Event → Prop
  | .navigate _ | .reload | .resolve _ _ => False
  | _ => True

theorem step_of_aside (desk : Desk) {event : Event} (aside : event.Aside) :
    (desk.step event).2.navigator = desk.navigator ∧ (desk.step event).1.fetch? = none := by
  cases event with
  | navigate url => exact aside.elim
  | reload => exact aside.elim
  | resolve generation result => exact aside.elim
  | updateForm block values =>
      rw [step]
      cases desk.editor.updateForm block values <;> exact ⟨rfl, rfl⟩
  | complete ticket result =>
      rw [step]
      cases desk.editor.complete desk.cache ticket result <;> exact ⟨rfl, rfl⟩
  | dispatch block input =>
      rw [step]
      cases desk.dispatcher.dispatch desk.cache.store block input <;> exact ⟨rfl, rfl⟩
  | finish ticket result =>
      rw [step]
      cases desk.dispatcher.complete desk.cache ticket result <;> exact ⟨rfl, rfl⟩
  | _ => exact ⟨rfl, rfl⟩

theorem record_of_aside (table : RouteTable) (history : History) {event : Event}
    (aside : event.Aside) :
    record history event = history ∧ prepared? table history event = none := by
  cases event with
  | navigate url => exact aside.elim
  | reload => exact aside.elim
  | resolve generation result => exact aside.elim
  | _ => exact ⟨rfl, rfl⟩

variable {desk : Desk} {table : RouteTable} {history : History}

/-- Whatever happens, the navigator keeps holding the queries of the history. -/
theorem mirrors_step (mirrors : Mirrors table history desk.navigator) (event : Event) :
    Mirrors table (record history event) (desk.step event).2.navigator ∧
      (desk.step event).1.fetch? = (prepared? table history event).map Query.fetch := by
  by_cases aside : event.Aside
  · obtain ⟨recorded, nothing⟩ := record_of_aside table history aside
    obtain ⟨kept, none⟩ := desk.step_of_aside aside
    rw [recorded, nothing, kept, none]
    exact ⟨mirrors, rfl⟩
  · cases event with
    | navigate url => exact mirrors.navigate desk.cache url
    | reload => exact mirrors.reload desk.cache
    | resolve generation result => exact ⟨mirrors.resolve desk.cache generation result, rfl⟩
    | _ => exact absurd trivial aside

theorem mirrors_run (mirrors : Mirrors table history desk.navigator) (events : List Event) :
    Mirrors table (events.foldl record history) (desk.run events).navigator := by
  induction events generalizing desk history with
  | nil => exact mirrors
  | cons event events induction => exact induction (mirrors_step mirrors event).1

/-- Navigation is a function of the history. After every run the history says what is shown, and
what has to be fetched next; and a result is applied exactly if the history awaits it, and changes
nothing at all otherwise. -/
theorem status_run (desk : Desk) (table : RouteTable) (events : List Event) :
    let history := History.of events
    let after := (desk.opened table).run events
    after.navigator.status = History.status table history ∧
      (∀ event,
        (after.step event).1.fetch? = (prepared? table history event).map Query.fetch) ∧
      ∀ generation result,
        let resolved := after.step (.resolve generation result)
        (resolved.1 = .resolved .applied ↔ History.Awaits table generation history) ∧
          (¬History.Awaits table generation history →
            resolved.1 = .resolved .stale ∧ resolved.2 = after) := by
  intro history after
  have start : Mirrors table [] (desk.opened table).navigator := .start table
  have mirrors : Mirrors table history after.navigator := mirrors_run start events
  refine ⟨mirrors.status_eq, fun event => (mirrors_step mirrors event).2, ?_⟩
  intro generation result resolved
  have awaits := mirrors.isSome_awaiting? generation
  cases awaited : after.navigator.awaiting? generation with
  | none =>
      rw [awaited] at awaits
      have stale : resolved = (.resolved .stale, after) := by
        simp only [resolved, step, Navigator.resolve_of_none awaited]
      rw [stale]
      exact ⟨⟨nofun, fun awaited => absurd (awaits.mpr awaited) nofun⟩, fun _ => ⟨rfl, rfl⟩⟩
  | some slot =>
      rw [awaited] at awaits
      have applied := (Navigator.resolve_of_some awaited after.cache result).1
      exact ⟨iff_of_true (congrArg Outcome.resolved applied) (awaits.mp rfl),
        fun unawaited => absurd (awaits.mp rfl) unawaited⟩

/-- A result may have come for a generation before, if it came too early: the generation is given
out by a later navigation, which awaits a result of its own. -/
theorem not_unheard_of_applied :
    ¬∀ (events : List Event) (generation : Nat) (result : ApiResult Json),
      (((start .standard).run events).step (.resolve generation result)).1 = .resolved .applied →
        ∀ other, .resolve generation other ∉ events := by
  intro unheard
  let data : ApiResult Json := .ok (.object [])
  exact unheard [.resolve 1 data, .navigate Place.dashboard.url] 1 data rfl data
    List.mem_cons_self

end Desk

end RealmDesk
