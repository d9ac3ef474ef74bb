import RealmDesk.Answer.Error
import RealmDesk.Place
import RealmDesk.Store.Cache

/-!
# Navigation

Every navigation has a generation and, if its URL leads to a place, a query that loads the data of
that place. The latest query is loading until its answer arrives; answers to older generations are
stale. The query before it, if it had settled, is kept with its records until the latest one has
settled, so that the old page can stay on the screen. Every query is disposed of once, when it is
superseded while it loads, when the query after it settles, when a URL leads nowhere, or when the
navigator is closed.
-/

namespace RealmDesk

/-- One load of data on behalf of one navigation. -/
structure Query where
  /-- The generation of the navigation. -/
  generation : Nat
  /-- The position of the route that prepared the query. -/
  routeIndex : Nat
  /-- The place that is loaded. -/
  place : Place
  /-- The operation that loads it. -/
  operation : Operation
deriving DecidableEq, Inhabited

/-- How far a query is. -/
inductive QueryState where
  /-- Its answer has not arrived. -/
  | loading
  /-- It brought root fields, whose records are retained under a token. -/
  | ready (root : FieldMap) (token : Nat)
  /-- It failed. -/
  | failed (error : ApiError)
deriving DecidableEq, Inhabited

/-- A query with its state. -/
structure Slot where
  /-- The query. -/
  query : Query
  /-- How far it is. -/
  state : QueryState
deriving DecidableEq, Inhabited

namespace Slot

/-- Whether the answer has not arrived. -/
def isLoading (slot : Slot) : Bool :=
  match slot.state with
  | .loading => true
  | _ => false

/-- The place and the root fields of a query that is ready. -/
def page? (slot : Slot) : Option (Place × FieldMap) :=
  match slot.state with
  | .ready root _ => some (slot.query.place, root)
  | _ => none

/-- The token under which the records of a query are retained. -/
def token? (slot : Slot) : Option Nat :=
  match slot.state with
  | .ready _ token => some token
  | _ => none

end Slot

/-- What has to be fetched on behalf of a navigation. -/
structure Fetch where
  /-- The generation the answer belongs to. -/
  generation : Nat
  /-- The operation to send. -/
  operation : Operation
deriving DecidableEq, Inhabited

/-- What became of an answer. -/
inductive Resolution where
  /-- It settled the latest query. -/
  | applied
  /-- It belongs to no query that is loading, and was dropped. -/
  | stale
deriving DecidableEq, Inhabited

/-- What a page shows of the navigation. -/
inductive Status where
  /-- Nothing was navigated to. -/
  | idle
  /-- The URL leads nowhere. -/
  | notFound
  /-- A place is loading, and an earlier page may stay on the screen. -/
  | loading (place : Place) (previous : Option (Place × FieldMap))
  /-- A place is loaded. -/
  | ready (place : Place) (root : FieldMap)
  /-- A place could not be loaded. -/
  | failed (place : Place) (error : ApiError)
deriving DecidableEq, Inhabited

/-- The state of navigation. -/
structure Navigator where
  /-- The routes. -/
  table : RouteTable
  /-- The generation of the latest navigation. -/
  generation : Nat := 0
  /-- The URL that was navigated to last. -/
  url : Option Url := none
  /-- The query of the latest navigation. -/
  latest : Option Slot := none
  /-- The settled query before it. -/
  retained : Option Slot := none
  /-- Whether the latest URL leads nowhere. -/
  notFound : Bool := false
  /-- The queries that were disposed of, oldest first. -/
  disposed : List Query := []
deriving DecidableEq, Inhabited

namespace Navigator

/-- Gives up the records of some queries. -/
def releaseAll (cache : Cache) (slots : List Slot) : Cache :=
  (slots.filterMap Slot.token?).foldl (fun cache token => (cache.release token).2) cache

/-- Disposes of queries, in their order. -/
def dispose (navigator : Navigator) (cache : Cache) (slots : List Slot) : Navigator × Cache :=
  ({ navigator with disposed := navigator.disposed ++ slots.map (·.query) },
    releaseAll cache slots)

/-- What a new navigation makes of the queries that are held: the one that is kept, and those that
are disposed of. A query that is loading is dropped, a settled one takes the place of the one kept
before. -/
def supersede (latest retained : Option Slot) : Option Slot × List Slot :=
  match latest with
  | none => (retained, [])
  | some slot => if slot.isLoading then (retained, [slot]) else (some slot, retained.toList)

/-- Navigates to a URL. Returns what has to be fetched if the URL leads to a place. -/
def navigate (navigator : Navigator) (cache : Cache) (url : Url) :
    Option Fetch × Navigator × Cache :=
  let generation := navigator.generation + 1
  let (kept, superseded) := supersede navigator.latest navigator.retained
  let moved := { navigator with generation, url := some url }
  match navigator.table.hit? url with
  | none =>
      let (closed, cache) := moved.dispose cache (superseded ++ kept.toList)
      (none, { closed with latest := none, retained := none, notFound := true },
        cache.collectGarbage.2)
  | some hit =>
      let operation := hit.route.operation hit.place
      let query : Query := ⟨generation, hit.index, hit.place, operation⟩
      let (opened, cache) := moved.dispose cache superseded
      (some ⟨generation, operation⟩,
        { opened with latest := some ⟨query, .loading⟩, retained := kept, notFound := false },
        cache)

/-- Navigates to the current URL again. -/
def reload (navigator : Navigator) (cache : Cache) : Option Fetch × Navigator × Cache :=
  match navigator.url with
  | some url => navigator.navigate cache url
  | none => (none, navigator, cache)

/-- The state that a result brings a query to: records that arrive are merged and retained. -/
def settle (cache : Cache) (result : ApiResult Json) : QueryState × Cache :=
  match Normalized.ofResult result with
  | .ok normalized =>
      let merged := cache.applySnapshot normalized.snapshot
      let (token, cache) := merged.retain normalized.rootIds
      (.ready normalized.root token, cache)
  | .error error => (.failed error, cache)

/-- The latest query, if it is loading on behalf of a generation. -/
def awaiting? (navigator : Navigator) (generation : Nat) : Option Slot :=
  navigator.latest.filter fun slot => slot.query.generation == generation && slot.isLoading

/-- Hands in the result of a fetch. -/
def resolve (navigator : Navigator) (cache : Cache) (generation : Nat) (result : ApiResult Json) :
    Resolution × Navigator × Cache :=
  match navigator.awaiting? generation with
  | none => (.stale, navigator, cache)
  | some slot =>
      let (state, cache) := settle cache result
      let (settled, cache) := navigator.dispose cache navigator.retained.toList
      (.applied, { settled with latest := some { slot with state }, retained := none },
        cache.collectGarbage.2)

/-- What a page shows. -/
def status (navigator : Navigator) : Status :=
  if navigator.notFound then .notFound
  else match navigator.latest with
    | none => .idle
    | some slot =>
        match slot.state with
        | .loading => .loading slot.query.place (navigator.retained.bind Slot.page?)
        | .ready root _ => .ready slot.query.place root
        | .failed error => .failed slot.query.place error

/-- The place and the root fields of the page on the screen, if it is loaded. -/
def current? (navigator : Navigator) : Option (Place × FieldMap) :=
  navigator.latest.bind Slot.page?

/-- Disposes of every query that is held. -/
def close (navigator : Navigator) (cache : Cache) : Navigator × Cache :=
  let (closed, cache) :=
    navigator.dispose cache (navigator.latest.toList ++ navigator.retained.toList)
  ({ closed with latest := none, retained := none }, cache)

end Navigator

end RealmDesk
