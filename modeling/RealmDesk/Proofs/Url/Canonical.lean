import RealmDesk.Place
import RealmDesk.Proofs.Url.RoundTrip

/-!
# Canonical addresses

The address of a place leads back to the place, by the route of its kind; only an empty cursor of
the video listing becomes the end of the listing that it lies at. A place that some URL leads to has
no empty cursor, so its address leads to exactly the same place.
-/

namespace RealmDesk

namespace ListPage

/-- The page without an empty cursor: the first one for `after`, the last one for `before`. -/
def canonical : ListPage → ListPage
  | .after "" => .first
  | .before "" => .last
  | page => page

theorem canonical_after (cursor : String) :
    (after cursor).canonical = if cursor = "" then first else after cursor := by
  rw [canonical.eq_def]
  split <;> simp_all

theorem canonical_before (cursor : String) :
    (before cursor).canonical = if cursor = "" then last else before cursor := by
  rw [canonical.eq_def]
  split <;> simp_all

end ListPage

/-- The place without an empty cursor. -/
def Place.canonical : Place → Place
  | .videos ⟨order, page⟩ => .videos ⟨order, page.canonical⟩
  | place => place

namespace Listing

theorem lookup_orderParameters_append {key : String} (noColumn : key ≠ "sortBy")
    (noDirection : key ≠ "sortOrder") (order : SortOrder) (others : List (String × String)) :
    (orderParameters order ++ others).lookup key = others.lookup key := by
  rw [orderParameters]
  split
  · rfl
  · simp [List.lookup_cons, beq_eq_false_iff_ne.mpr noColumn,
      beq_eq_false_iff_ne.mpr noDirection]

theorem lookup_pageParameters {key : String} (noLast : key ≠ "lastPage")
    (noBefore : key ≠ "before") (noAfter : key ≠ "after") (page : ListPage) :
    (pageParameters page).lookup key = none := by
  have last : List.lookup key [("lastPage", "")] = none := by
    simp [List.lookup_cons, beq_eq_false_iff_ne.mpr noLast]
  cases page with
  | first => rfl
  | last => exact last
  | after cursor =>
      rw [pageParameters]
      split
      · rfl
      · simp [List.lookup_cons, beq_eq_false_iff_ne.mpr noAfter]
  | before cursor =>
      rw [pageParameters]
      split
      · exact last
      · simp [List.lookup_cons, beq_eq_false_iff_ne.mpr noBefore]

theorem orderOf_encode (listing : Listing) :
    orderOf (listing.encode.lookup ·) = listing.order := by
  obtain ⟨order, page⟩ := listing
  have noColumn : (pageParameters page).lookup "sortBy" = none :=
    lookup_pageParameters (by decide) (by decide) (by decide) page
  by_cases standard : order = .standard
  · simp [orderOf, encode, orderParameters, standard, noColumn]
  · simp [orderOf, encode, orderParameters, standard, List.lookup_cons]

theorem pageOf_encode (listing : Listing) :
    pageOf (listing.encode.lookup ·) = listing.page.canonical := by
  obtain ⟨order, page⟩ := listing
  have skip {key : String} (noColumn : key ≠ "sortBy") (noDirection : key ≠ "sortOrder") :
      (Listing.mk order page).encode.lookup key = (pageParameters page).lookup key :=
    lookup_orderParameters_append noColumn noDirection order _
  rw [pageOf, skip (by decide) (by decide), skip (by decide) (by decide),
    skip (by decide) (by decide)]
  cases page with
  | first => rfl
  | last => rfl
  | after cursor =>
      by_cases blank : cursor = ""
      · subst blank
        rfl
      · simp [pageParameters, ListPage.canonical_after, blank, List.lookup_cons]
  | before cursor =>
      by_cases blank : cursor = ""
      · subst blank
        rfl
      · simp [pageParameters, ListPage.canonical_before, blank, List.lookup_cons]

theorem canonical_pageOf (parameter? : String → Option String) :
    (pageOf parameter?).canonical = pageOf parameter? := by
  rw [pageOf]
  split
  case h_1 => rfl
  case h_2 cursor _ _ =>
    by_cases blank : cursor = ""
    · simp [blank, ListPage.canonical]
    · simp [blank, ListPage.canonical_before]
  case h_3 cursor _ _ _ =>
    by_cases blank : cursor = ""
    · simp [blank, ListPage.canonical]
    · simp [blank, ListPage.canonical_after]
  case h_4 => rfl

theorem lookup_encode_empty (listing : Listing) : listing.encode.lookup "" = none := by
  rw [encode, lookup_orderParameters_append (by decide) (by decide)]
  exact lookup_pageParameters (by decide) (by decide) (by decide) _

end Listing

namespace Place

theorem path_url (place : Place) : place.url.path = place.route.path := by
  cases place <;> rfl

theorem parameter?_url_empty (place : Place) : place.url.parameter? "" = none := by
  cases place with
  | videos listing => exact listing.lookup_encode_empty
  | _ => rfl

/-- The address of a place is read as its URL. -/
theorem parse_address (place : Place) : Url.parse place.address = place.url := by
  have readable : place.url.path ≠ "" ∧ '?' ∉ place.url.path.toList ∧
      '#' ∉ place.url.path.toList := by
    rw [path_url]
    cases place.route <;> decide
  have kept : place.url.query.filter (· ≠ ("", "")) = place.url.query := by
    refine List.filter_eq_self.mpr fun given member => ?_
    have named := List.lookup_eq_none_iff.mp place.parameter?_url_empty given member
    rw [decide_eq_true_eq]
    rintro rfl
    simp at named
  rw [address, Url.parse_text readable.1 readable.2.1 readable.2.2, kept]

theorem place?_url (place : Place) : place.route.place? place.url = some place.canonical := by
  cases place with
  | dashboard => rfl
  | videos listing =>
      have order := listing.orderOf_encode
      have page := listing.pageOf_encode
      have read : Listing.decode (listing.encode.lookup ·) =
          ⟨listing.order, listing.page.canonical⟩ := by
        rw [Listing.decode, order, page]
      exact congrArg (some ∘ Place.videos) read
  | _ => simp [route, Route.place?, url, canonical]

end Place

namespace Route

theorem path_injective {left right : Route} (same : left.path = right.path) : left = right := by
  revert same
  cases left <;> cases right <;> decide

theorem route_of_place? {route : Route} {url : Url} {place : Place}
    (leads : route.place? url = some place) : place.route = route := by
  cases route with
  | dashboard | videos =>
      obtain rfl := Option.some.inj leads
      rfl
  | _ =>
      obtain ⟨path, -, rfl⟩ := Option.map_eq_some_iff.mp leads
      rfl

theorem canonical_of_place? {route : Route} {url : Url} {place : Place}
    (leads : route.place? url = some place) : place.canonical = place := by
  cases route with
  | videos =>
      obtain rfl := Option.some.inj leads
      rw [Place.canonical, Listing.decode, Listing.canonical_pageOf]
  | dashboard =>
      obtain rfl := Option.some.inj leads
      rfl
  | _ =>
      obtain ⟨path, -, rfl⟩ := Option.map_eq_some_iff.mp leads
      rfl

end Route

namespace RouteTable

variable {url : Url} {route : Route} {routes : List Route} {table : RouteTable}

theorem hitFrom_of_forall_ne (astray : ∀ route ∈ routes, url.path ≠ route.path) (first : Nat) :
    hitFrom url first routes = none := by
  induction routes generalizing first with
  | nil => rfl
  | cons other routes induction =>
      have passed : other.match? url = none := if_neg (astray other List.mem_cons_self)
      rw [hitFrom, passed]
      exact induction (fun route member => astray route (List.mem_cons_of_mem _ member)) _

/-- A path leads to one route only, so the others are passed over. -/
theorem hitFrom_of_path (distinct : routes.Nodup) (member : route ∈ routes)
    (way : url.path = route.path) (first : Nat) :
    hitFrom url first routes =
      (route.place? url).map fun place => ⟨first + routes.idxOf route, route, place⟩ := by
  have astray {other : Route} (different : other ≠ route) : url.path ≠ other.path :=
    fun same => different (Route.path_injective (same.symm.trans way))
  induction routes generalizing first with
  | nil => cases member
  | cons other routes induction =>
      obtain ⟨absent, distinct⟩ := List.nodup_cons.mp distinct
      by_cases same : other = route
      · subst same
        have taken : other.match? url = other.place? url := if_pos way
        have rest : hitFrom url (first + 1) routes = none :=
          hitFrom_of_forall_ne (fun later inside => astray (ne_of_mem_of_not_mem inside absent)) _
        rw [hitFrom, taken, rest, List.idxOf_cons_self, Nat.add_zero]
        cases other.place? url <;> rfl
      · have passed : other.match? url = none := if_neg (astray same)
        have later : (other :: routes).idxOf route = 1 + routes.idxOf route := by
          rw [List.idxOf_cons, beq_eq_false_iff_ne.mpr same, cond_false, Nat.add_comm]
        rw [hitFrom, passed, later, ← Nat.add_assoc]
        exact induction distinct ((List.mem_cons.mp member).resolve_left (Ne.symm same)) _

/-- The standard table leads from the path of a route to what the route makes of the URL. -/
theorem hit?_standard (way : url.path = route.path) :
    standard.hit? url =
      (route.place? url).map fun place => ⟨Route.all.idxOf route, route, place⟩ := by
  have listed : route ∈ Route.all := by cases route <;> decide
  have hit := hitFrom_of_path (by decide) listed way 0
  rwa [Nat.zero_add] at hit

/-- A place that the standard table leads to is what the route makes of the URL. -/
theorem hit_of_standard {hit : Hit} (found : standard.hit? url = some hit) :
    hit.route.place? url = some hit.place ∧ hit.index = Route.all.idxOf hit.route := by
  have leads := (getElem?_of_hit? found).2
  rw [Route.match?] at leads
  split at leads
  case isFalse => cases leads
  case isTrue way =>
    rw [hit?_standard way, leads, Option.map_some, Option.some_inj] at found
    exact ⟨leads, congrArg Hit.index found.symm⟩

end RouteTable

theorem Place.hit?_address (place : Place) :
    RouteTable.standard.hit? (Url.parse place.address) =
      some ⟨Route.all.idxOf place.route, place.route, place.canonical⟩ := by
  rw [parse_address, RouteTable.hit?_standard place.path_url, place?_url, Option.map_some]

/-- The address of a place leads to the place, by the route of its kind; only an empty cursor
becomes the end of the listing that it lies at. A place that a URL leads to has none, so its address
leads back to it by the same route. -/
theorem Place.address_leads_back :
    (∀ place : Place, RouteTable.standard.hit? (Url.parse place.address) =
      some ⟨Route.all.idxOf place.route, place.route, place.canonical⟩) ∧
    ∀ (raw : String) (hit : Hit), RouteTable.standard.hit? (Url.parse raw) = some hit →
      hit.place.canonical = hit.place ∧
        RouteTable.standard.hit? (Url.parse hit.place.address) = some hit := by
  refine ⟨hit?_address, fun raw hit found => ?_⟩
  obtain ⟨leads, place⟩ := RouteTable.hit_of_standard found
  have whole := Route.canonical_of_place? leads
  refine ⟨whole, ?_⟩
  have own : hit.place.route = hit.route := Route.route_of_place? leads
  rw [hit?_address, whole, own, ← place]

/-- Half an order is no order, the parameter `before` wins over `after`, and an empty cursor before
which nothing lies asks for the last page; the address says so in one parameter. -/
theorem Place.address_leads_back_of_videos :
    let hit : Hit := ⟨4, .videos, .videos ⟨.standard, .last⟩⟩
    RouteTable.standard.hit? (Url.parse "/~manage/videos?sortBy=title&after=x&before") = some hit ∧
      hit.place.canonical = hit.place ∧
      RouteTable.standard.hit? (Url.parse hit.place.address) = some hit := by
  intro hit
  have found : RouteTable.standard.hit?
      (Url.parse "/~manage/videos?sortBy=title&after=x&before") = some hit := by
    decide +kernel
  exact ⟨found, address_leads_back.2 _ hit found⟩

end RealmDesk
