import RealmDesk.Proofs.Desk.BlockList
import RealmDesk.Proofs.Desk.Links
import RealmDesk.Proofs.Visit.Pledges

/-!
# Pages stay loaded, and nothing else does

Navigation shares its records with the editor and with everyone else who writes them, subscribes to
them, or retains them. The page on the screen is complete as long as nobody else gives up its token,
because its roots are pledged, the collections of garbage spare what they lead to, and no stored
record has a dangling link. What is not kept alive goes as soon as a page is left.
-/

namespace RealmDesk

namespace Desk

open Cache (Spares Honours)

variable {desk : Desk} {lent : Tokens}

/-- An event that is about neither navigation nor garbage. -/
def Event.Writes : Event → Prop
  | .navigate _ | .reload | .resolve _ _ | .retain _ | .release _ | .collectGarbage => False
  | _ => True

theorem spares_of_finished (integral : desk.Integral) {request : SaveRequest}
    {result : ApiResult Json} {outcome : SaveOutcome} {after : Cache} (sent : desk.Sent request)
    (finished : Dispatcher.Finished desk.cache request result after outcome) :
    desk.cache.Spares after := by
  cases finished with
  | refused error wrote reason => exact .of_wrote wrote fun _ present => present
  | updated id input normalized asked read wrote =>
      apply Spares.of_wrote wrote
      intro text present
      exact (View.isSome_mergeSnapshot ..).mpr (.inl present)
  | created realm index input normalized saved asked read named present wrote =>
      -- The one record that is removed is that of a pending block.
      obtain ⟨number, pending, -⟩ :=
        (integral.tended realm).asked request realm index input sent asked
      apply Spares.of_wrote wrote
      intro text stored
      have other : RecordId.persisted text ≠ request.block := by simp [pending]
      exact (View.isSome_adopt ..).mpr (.inl ⟨other, stored⟩)

theorem spares_mark {before after : Cache} {block : RecordId} {on : Bool} {lastPending : Nat}
    (wrote : before.Wrote after (before.store.records.view.mark block on) lastPending) :
    before.Spares after := by
  apply Spares.of_wrote wrote
  intro text present
  rwa [View.mark, View.isSome_set]

/-- Whatever is written in a session leaves the tokens and the saved records in their places. -/
theorem spares_step (integral : desk.Integral) {event : Event} (writes : event.Writes)
    (session : event.InSession FieldMap.Unlinked) :
    desk.cache.Spares (desk.step event).2.cache := by
  cases event with
  | navigate => exact writes.elim
  | reload => exact writes.elim
  | resolve => exact writes.elim
  | retain => exact writes.elim
  | release => exact writes.elim
  | collectGarbage => exact writes.elim
  | merge => exact session.elim
  | update => exact session.elim
  | insert realm index kind defaults =>
      obtain ⟨-, ⟨-, -, -, -, wrote⟩ | ⟨-, lastPending, -, -, wrote⟩⟩ :=
        desk.editor.insert_cases desk.cache realm index kind defaults
      · apply Spares.of_wrote wrote
        intro text present
        exact (View.isSome_place ..).mpr (.inr present)
      · exact .of_wrote wrote fun _ present => present
  | setEditMode block on =>
      obtain ⟨wrote, -⟩ := desk.editor.setEditMode_wrote desk.cache block on
      exact spares_mark wrote
  | updateForm block values =>
      rw [step]
      split <;> exact .refl desk.cache
  | submit => exact .refl desk.cache
  | complete ticket result =>
      rw [step]
      cases completed : desk.editor.complete desk.cache ticket result with
      | error => exact .refl desk.cache
      | ok parts =>
          obtain ⟨outcome, editor, cache⟩ := parts
          obtain ⟨middle, handled, marked⟩ := Editor.complete_of_ok completed
          obtain ⟨request, standing, -, finished⟩ := Dispatcher.complete_of_ok handled
          have spared := spares_of_finished integral ⟨ticket, .inl standing⟩ finished
          rcases marked with ⟨previous, block, -, wrote⟩ | ⟨block, error, -, rfl⟩
          · exact spared.trans (spares_mark wrote)
          · exact spared
  | cancel block confirmed =>
      obtain ⟨-, ⟨realms, -, -, pending, -, wrote⟩ | ⟨-, next, rfl | rfl, wrote⟩⟩ :=
        desk.editor.cancel_cases desk.cache block confirmed
      · apply Spares.of_wrote wrote
        intro text present
        have other : RecordId.persisted text ≠ block := by
          rintro rfl
          cases pending
        exact (View.isSome_remove ..).mpr ⟨other, present⟩
      · exact .of_wrote wrote fun _ present => present
      · exact spares_mark wrote
  | prune => exact .refl desk.cache
  | dispatch block input =>
      rw [step]
      split <;> exact .refl desk.cache
  | finish ticket result =>
      rw [step]
      cases completed : desk.dispatcher.complete desk.cache ticket result with
      | error => exact .refl desk.cache
      | ok parts =>
          obtain ⟨outcome, dispatcher, cache⟩ := parts
          obtain ⟨request, standing, -, finished⟩ := Dispatcher.complete_of_ok completed
          exact spares_of_finished integral ⟨ticket, .inr standing⟩ finished
  | addChild result =>
      rw [step, ChildRealm.receive]
      cases Normalized.ofResult result with
      | error => exact .refl desk.cache
      | ok normalized =>
          dsimp only
          cases ChildRealm.createdPath normalized with
          | error => exact .refl desk.cache
          | ok => exact Navigator.spares_applySnapshot desk.cache normalized.snapshot
  | subscribe => exact ⟨rfl, rfl, fun _ present => present⟩
  | unsubscribe => exact ⟨rfl, rfl, fun _ present => present⟩

/-- An event of a session in which nobody but the navigator gives up the token of a page. -/
def Considerate (desk : Desk) : Event → Prop
  | .release token => ∀ slot ∈ desk.navigator.held, slot.token? ≠ some token
  | event => event.InSession FieldMap.Unlinked

/-- The tokens that others than the navigator have after an event. -/
def lend (lent : Tokens) : Event × Outcome → Tokens
  | (.retain roots, .numbered token) => lent.insert token roots
  | (.release token, _) => lent.erase token
  | _ => lent

theorem Considerate.inSession {event : Event} (considerate : desk.Considerate event) :
    event.InSession FieldMap.Unlinked := by
  cases event with
  | release => trivial
  | _ => exact considerate

theorem lend_of_writes {event : Event} (writes : event.Writes) (outcome : Outcome) :
    lend lent (event, outcome) = lent := by
  cases event with
  | retain => exact writes.elim
  | release => exact writes.elim
  | _ => rfl

theorem aside_of_writes {event : Event} (writes : event.Writes) : event.Aside := by
  cases event <;> trivial

/-- Every event keeps the tokens in order. -/
theorem honours_step (integral : desk.Integral)
    (honours : desk.cache.Honours lent desk.navigator.pledges) {event : Event}
    (considerate : desk.Considerate event) :
    (desk.step event).2.cache.Honours (lend lent (event, (desk.step event).1))
      (desk.step event).2.navigator.pledges := by
  by_cases writes : event.Writes
  · rw [lend_of_writes writes, (desk.step_of_aside (aside_of_writes writes)).1]
    exact honours.spares (spares_step integral writes considerate.inSession)
  · cases event with
    | navigate url => exact Navigator.honours_navigate honours url
    | reload => exact Navigator.honours_reload honours
    | resolve generation result => exact Navigator.honours_resolve honours generation result
    | retain roots => exact honours.lend roots
    | release token =>
        apply honours.giveBack
        rw [Navigator.pledges, List.map_filterMap]
        intro member
        obtain ⟨slot, held, named⟩ := List.mem_filterMap.mp member
        exact considerate slot held (slot.map_pledge? ▸ named)
    | collectGarbage => exact honours.collectGarbage
    | _ => exact absurd trivial writes

theorem integral_step (integral : desk.Integral) {event : Event}
    (considerate : desk.Considerate event) : (desk.step event).2.Integral :=
  integral.turns (turns_step considerate.inSession desk)

theorem honours_run (integral : desk.Integral)
    (honours : desk.cache.Honours lent desk.navigator.pledges) {events : List Event}
    (considerate : desk.Along Considerate events) :
    (desk.run events).Integral ∧
      (desk.run events).cache.Honours ((desk.trace events).foldl lend lent)
        (desk.run events).navigator.pledges := by
  induction events generalizing desk lent with
  | nil => exact ⟨integral, honours⟩
  | cons event events induction =>
      obtain ⟨first, rest⟩ := considerate
      exact induction (integral_step integral first) (honours_step integral honours first) rest

theorem mem_of_reaches {records : Records} {roots : List RecordId} {id : RecordId}
    (closed : records.Closed) (stored : ∀ root ∈ roots, root ∈ records)
    (reached : Records.Reaches records roots id) : id ∈ records := by
  induction reached with
  | root member => exact stored _ member
  | link _ found linked => exact closed _ _ _ found linked

/-- An event that leaves a page for good: an answer settles the latest query, or a URL leads
nowhere. -/
inductive Leaves (desk : Desk) : Event → Prop where
  | navigate {url : Url} (lost : desk.navigator.table.hit? url = none) :
      Leaves desk (.navigate url)
  | reload {url : Url} (current : desk.navigator.url = some url)
      (lost : desk.navigator.table.hit? url = none) : Leaves desk .reload
  | resolve {generation : Nat} {result : ApiResult Json}
      (applied : (desk.step (.resolve generation result)).1 = .resolved .applied) :
      Leaves desk (.resolve generation result)

theorem alive_of_lost (desk : Desk) {url : Url} (lost : desk.navigator.table.hit? url = none)
    {id : RecordId} (stored : id ∈ (desk.step (.navigate url)).2.cache.store.records) :
    (desk.step (.navigate url)).2.cache.store.Alive id := by
  rw [step, Navigator.navigate, lost] at stored ⊢
  exact Store.alive_of_mem_collectGarbage stored

/-- Whatever is stored when a page was left is kept alive. -/
theorem alive_of_leaves {event : Event} (leaves : desk.Leaves event) {id : RecordId}
    (stored : id ∈ (desk.step event).2.cache.store.records) :
    (desk.step event).2.cache.store.Alive id := by
  cases leaves with
  | navigate lost => exact desk.alive_of_lost lost stored
  | reload current lost =>
      rw [step, Navigator.reload, current] at stored ⊢
      exact desk.alive_of_lost lost stored
  | @resolve generation result applied =>
      rw [step, Navigator.resolve] at applied stored ⊢
      cases awaited : desk.navigator.awaiting? generation with
      | none => simp [awaited] at applied
      | some slot =>
          rw [awaited] at stored
          exact Store.alive_of_mem_collectGarbage stored

/-- The page on the screen is complete, and nothing else is kept. In every run in which nobody else
gives up the token of a page, the live tokens are those that are lent to others and those of the
queries that are ready, each with the roots of its page; when the navigator is closed only those of
others are left. What the page on the screen links to, directly or not, is stored. And when a page
was left, whatever is stored is kept alive by a live token or by a subscription. -/
theorem kept_loaded (table : RouteTable) {events : List Event} (integral : desk.Integral)
    (counted : ∀ (token : Nat) (roots : List RecordId),
      desk.cache.store.retained[token]? = some roots → token ≤ desk.cache.store.lastToken)
    (considerate : (desk.opened table).Along Considerate events) :
    let after := (desk.opened table).run events
    let lent := ((desk.opened table).trace events).foldl lend desk.cache.store.retained
    (∀ (token : Nat) (roots : List RecordId),
      after.cache.store.retained[token]? = some roots ∧ lent[token]? = none ↔
        ∃ slot ∈ after.navigator.held, ∃ root, slot.state = .ready root token ∧
          root.targets = roots) ∧
    (∀ (token : Nat) (roots : List RecordId), lent[token]? = some roots →
      after.cache.store.retained[token]? = some roots) ∧
    (after.navigator.close after.cache).2.store.retained = lent ∧
    (∀ place root, after.navigator.status.page? = some (place, root) →
      ∀ id, Records.Reaches after.cache.store.records root.targets id →
        id ∈ after.cache.store.records) ∧
    ∀ event, after.Leaves event → ∀ id ∈ (after.step event).2.cache.store.records,
      (after.step event).2.cache.store.Alive id := by
  intro after lent
  have opened : (desk.opened table).Integral :=
    integral.turn (turn_of_tidied (.refl desk.cache) rfl rfl)
  have start : (desk.opened table).cache.Honours desk.cache.store.retained
      (desk.opened table).navigator.pledges := by
    constructor
    · intro token roots
      exact ⟨.inr, fun live => live.resolve_left nofun⟩
    · nofun
    · exact List.nodup_nil
    · exact counted
    · nofun
  obtain ⟨kept, honours⟩ := honours_run opened start considerate
  refine ⟨fun token roots => ?_, fun token roots given => ?_, Navigator.retained_close honours,
    fun place root shown id reached => ?_, fun event leaves id => alive_of_leaves leaves⟩
  · rw [honours.live]
    constructor
    · rintro ⟨pledged | given, unlent⟩
      · exact Navigator.mem_pledges.mp pledged
      · rw [unlent] at given
        cases given
    · intro ready
      have pledged := Navigator.mem_pledges.mpr ready
      exact ⟨.inl pledged, honours.apart _ pledged⟩
  · exact (honours.live token roots).mpr (.inr given)
  · obtain ⟨slot, held, brought⟩ := Navigator.exists_held_of_page? shown
    obtain ⟨token, ready⟩ := slot.exists_token_of_page? brought
    have pledged : (token, root.targets) ∈ after.navigator.pledges :=
      Navigator.mem_pledges.mpr ⟨slot, held, root, ready, rfl⟩
    apply mem_of_reaches (Records.closed_iff_view.mpr kept.closed) _ reached
    intro target linked
    obtain ⟨text, -, present⟩ := honours.stored _ pledged target linked
    exact Records.isSome_view.mp present

/-- Somebody retains a record, a page is loaded, a block is inserted on it, and the next page is
loading. -/
theorem kept_loaded_while_loading :
    let realm : Json := .obj [("id", .str "r"), ("__typename", .str "Realm"), ("blocks", .arr [])]
    let events : List Event := [.retain [.persisted "x"], .retain [], .release 2,
      .navigate (Place.realmContent "/").url, .resolve 1 (.ok (.obj [("realm", realm)])),
      .insert (.persisted "r") 0 .title ∅, .navigate (Place.realmContent "/a").url]
    let root : FieldMap := .ofList [("realm", .link (.persisted "r"))]
    let after := (start .standard).run events
    (start .standard).Along Considerate events ∧
      after.navigator.status.page? = some (.realmContent "/", root) ∧
      (∀ id, Records.Reaches after.cache.store.records root.targets id →
        id ∈ after.cache.store.records) ∧
      (after.navigator.close after.cache).2.store.retained =
        (∅ : Tokens).insert 1 [.persisted "x"] := by
  intro realm events root after
  have unlinked : FieldMap.Unlinked ∅ := by simp [FieldMap.Unlinked]
  have released : ∀ slot ∈ ((start .standard).run (events.take 2)).navigator.held,
      slot.token? ≠ some 2 := by
    decide +kernel
  have considerate : (start .standard).Along Considerate events :=
    ⟨trivial, trivial, released, trivial, trivial, unlinked, trivial, trivial⟩
  have shown : after.navigator.status.page? = some (.realmContent "/", root) := by
    decide +kernel
  obtain ⟨-, -, closed, complete, -⟩ :=
    kept_loaded .standard (Integral.start .standard) (by simp [start]) considerate
  exact ⟨considerate, shown, complete _ root shown, closed.trans (by decide +kernel)⟩

end Desk

end RealmDesk
