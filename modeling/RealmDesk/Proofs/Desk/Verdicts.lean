import RealmDesk.Proofs.Desk.Retention
import RealmDesk.Proofs.Visit.Verdicts

/-!
# Verdicts depend on answers alone

Two desks that load the same place may have anything behind them: other pages, blocks that are being
edited, records that somebody else wrote, roots that somebody else gave up. Once the same answer
arrives at both, their verdicts are alike. What is needed of the past is only that no query holds a
token which is still to be given out, since the token of the answer would then be given up with it.
-/

namespace RealmDesk

namespace Navigator

variable {navigator : Navigator} {before cache after : Cache}

theorem Counted.mono (counted : navigator.Counted before)
    (later : before.store.lastToken ≤ after.store.lastToken) : navigator.Counted after :=
  fun slot held token given => Nat.le_trans (counted slot held token given) later

theorem lastToken_releaseAll (cache : Cache) (slots : List Slot) :
    (releaseAll cache slots).store.lastToken = cache.store.lastToken := by
  rw [store_releaseAll]

theorem counted_navigate (counted : navigator.Counted cache) (url : Url) :
    (navigator.navigate cache url).2.1.Counted (navigator.navigate cache url).2.2 := by
  cases hit : navigator.table.hit? url with
  | none =>
      rw [(navigate_of_none hit cache).2]
      intro slot held
      cases held
  | some place =>
      have same : (navigator.navigate cache url).2.2.store.lastToken = cache.store.lastToken := by
        rw [navigate, hit]
        exact lastToken_releaseAll ..
      rw [(navigate_of_some hit cache).2]
      intro slot held token given
      rw [same]
      rcases List.mem_cons.mp held with rfl | kept
      · cases given
      · have standing : slot ∈ navigator.held :=
          (supersede_perm navigator.latest navigator.retained).mem_iff.mp
            (List.mem_append_right _ kept)
        exact counted slot standing token given

theorem counted_reload (counted : navigator.Counted cache) :
    (navigator.reload cache).2.1.Counted (navigator.reload cache).2.2 := by
  rw [reload]
  split
  · exact counted_navigate counted _
  · exact counted

/-- The one query that is held after an answer has the token that was given out for it. -/
theorem counted_resolve (counted : navigator.Counted cache) (generation : Nat)
    (result : ApiResult Json) :
    (navigator.resolve cache generation result).2.1.Counted
      (navigator.resolve cache generation result).2.2 := by
  cases awaited : navigator.awaiting? generation with
  | none =>
      rw [resolve_of_none awaited]
      exact counted
  | some slot =>
      rw [(resolve_of_some awaited cache result).2]
      intro held member token given
      obtain rfl := List.mem_singleton.mp member
      cases read : Normalized.ofResult result with
      | error error => simp [settle, read, Slot.token?] at given
      | ok answer =>
          simp only [settle, read, Slot.token?, Option.some.injEq] at given
          have kept := lastToken_releaseAll
            ((cache.applySnapshot answer.snapshot).retain answer.rootIds).2
            navigator.retained.toList
          rw [← given, (resolve_of_ok awaited cache read).2]
          exact Nat.le_of_eq kept.symm

end Navigator

theorem Cache.lastToken_update {ε α : Type} (cache : Cache) (edit : Edit ε α) :
    (cache.update edit).2.store.lastToken = cache.store.lastToken := by
  cases ran : edit.run cache.draft with
  | mk result draft => cases result <;> simp only [update, store_publish, Store.update, ran]

theorem Dispatcher.Finished.lastToken_eq {cache after : Cache} {request : SaveRequest}
    {result : ApiResult Json} {outcome : SaveOutcome}
    (finished : Finished cache request result after outcome) :
    after.store.lastToken = cache.store.lastToken := by
  cases finished with
  | refused _ wrote _ => exact wrote.lastToken_eq
  | updated _ _ _ _ _ wrote => exact wrote.lastToken_eq
  | created _ _ _ _ _ _ _ _ _ wrote => exact wrote.lastToken_eq

namespace Desk

variable {desk : Desk}

/-- Whatever is written, no token is given out. -/
theorem lastToken_step (desk : Desk) {event : Event} (writes : event.Writes) :
    (desk.step event).2.cache.store.lastToken = desk.cache.store.lastToken := by
  cases event with
  | navigate => exact writes.elim
  | reload => exact writes.elim
  | resolve => exact writes.elim
  | retain => exact writes.elim
  | release => exact writes.elim
  | collectGarbage => exact writes.elim
  | insert realm index kind defaults =>
      obtain ⟨-, ⟨-, -, -, -, wrote⟩ | ⟨-, lastPending, -, -, wrote⟩⟩ :=
        desk.editor.insert_cases desk.cache realm index kind defaults
      · exact wrote.lastToken_eq
      · exact wrote.lastToken_eq
  | setEditMode block on =>
      obtain ⟨wrote, -⟩ := desk.editor.setEditMode_wrote desk.cache block on
      exact wrote.lastToken_eq
  | updateForm block values =>
      rw [step]
      split <;> rfl
  | complete ticket result =>
      rw [step]
      cases completed : desk.editor.complete desk.cache ticket result with
      | error => rfl
      | ok parts =>
          obtain ⟨outcome, editor, cache⟩ := parts
          obtain ⟨middle, handled, marked⟩ := Editor.complete_of_ok completed
          obtain ⟨request, -, -, finished⟩ := Dispatcher.complete_of_ok handled
          rcases marked with ⟨previous, block, -, wrote⟩ | ⟨block, error, -, rfl⟩
          · exact wrote.lastToken_eq.trans finished.lastToken_eq
          · exact finished.lastToken_eq
  | cancel block confirmed =>
      obtain ⟨-, ⟨realms, -, -, -, -, wrote⟩ | ⟨-, next, -, wrote⟩⟩ :=
        desk.editor.cancel_cases desk.cache block confirmed
      · exact wrote.lastToken_eq
      · exact wrote.lastToken_eq
  | dispatch block input =>
      rw [step]
      split <;> rfl
  | finish ticket result =>
      rw [step]
      cases completed : desk.dispatcher.complete desk.cache ticket result with
      | error => rfl
      | ok parts =>
          obtain ⟨outcome, dispatcher, cache⟩ := parts
          obtain ⟨request, -, -, finished⟩ := Dispatcher.complete_of_ok completed
          exact finished.lastToken_eq
  | addChild result =>
      rw [step, ChildRealm.receive]
      cases Normalized.ofResult result with
      | error => rfl
      | ok normalized =>
          dsimp only
          cases ChildRealm.createdPath normalized with
          | error => rfl
          | ok => exact (desk.cache.wrote_applySnapshot normalized.snapshot).lastToken_eq
  | merge snapshot => exact (desk.cache.wrote_applySnapshot snapshot).lastToken_eq
  | update script => exact desk.cache.lastToken_update script.run
  | _ => rfl

/-- Every event keeps the tokens of the queries below the next one. -/
theorem counted_step (counted : desk.navigator.Counted desk.cache) (event : Event) :
    (desk.step event).2.navigator.Counted (desk.step event).2.cache := by
  by_cases writes : event.Writes
  · rw [(desk.step_of_aside (aside_of_writes writes)).1]
    exact counted.mono (Nat.le_of_eq (desk.lastToken_step writes).symm)
  · cases event with
    | navigate url => exact Navigator.counted_navigate counted url
    | reload => exact Navigator.counted_reload counted
    | resolve generation result => exact Navigator.counted_resolve counted generation result
    | retain => exact counted.mono (Nat.le_succ _)
    | release => exact counted.mono (Nat.le_refl _)
    | collectGarbage => exact counted.mono (Nat.le_refl _)
    | _ => exact absurd trivial writes

theorem counted_run (counted : desk.navigator.Counted desk.cache) (events : List Event) :
    (desk.run events).navigator.Counted (desk.run events).cache := by
  induction events generalizing desk with
  | nil => exact counted
  | cons event events induction => exact induction (counted_step counted event)

/-- The place that is shown, with the verdict on it. -/
def verdict? (desk : Desk) : Option (Place × Verdict) :=
  desk.navigator.current?.map fun page => (page.1, .of page.1 page.2 desk.cache.store.records)

/-- A run leads to the desk. It starts with any records and edits, and with nothing loaded. -/
def Reached (desk : Desk) : Prop :=
  ∃ (first : Desk) (table : RouteTable) (events : List Event),
    desk = (first.opened table).run events

/-- The desk awaits the answer for a generation, in order to show a place. -/
def Loads (desk : Desk) (generation : Nat) (place : Place) : Prop :=
  (desk.navigator.awaiting? generation).map (·.query.place) = some place

instance (desk : Desk) (generation : Nat) (place : Place) :
    Decidable (desk.Loads generation place) :=
  inferInstanceAs (Decidable (_ = _))

variable {generation : Nat} {place : Place} {data : Json} {answer : Normalized}

theorem reached_of_start (table : RouteTable) (events : List Event) :
    ((start table).run events).Reached :=
  ⟨start table, table, events, rfl⟩

theorem Reached.counted (reached : desk.Reached) : desk.navigator.Counted desk.cache := by
  obtain ⟨first, table, events, rfl⟩ := reached
  have empty : (first.opened table).navigator.Counted (first.opened table).cache := by
    intro slot held
    cases held
  exact counted_run empty events

/-- An answer that was awaited is judged over whatever was stored before. -/
theorem exists_verdict_of_loads (reached : desk.Reached) (loads : desk.Loads generation place)
    (read : Normalized.ofJson data = .ok answer) (flags : answer.Flags place) :
    ∃ verdict : Verdict,
      (desk.step (.resolve generation (.ok data))).2.verdict? = some (place, verdict) ∧
        verdict.Judges place answer desk.cache.read := by
  obtain ⟨slot, awaited, rfl⟩ := Option.map_eq_some_iff.mp loads
  have normalized : Normalized.ofResult (.ok data) = .ok answer := Normalized.ofResult_ok.mpr read
  obtain ⟨shown, judges⟩ :=
    Navigator.judges_resolve awaited reached.counted normalized flags
  exact ⟨_, by rw [verdict?, step, shown]; rfl, judges⟩

/-- The verdict depends on the answer alone, but for what the answer leaves out. Two desks that load
the same place get the same answer, which says whether the user may edit the realm it links to, if
it links to one. Whatever was stored before, both then show the place, each with the verdict that
the answer demands. The verdicts are the same, or they show the same realm, and show of it the same
in all fields that the answer has. -/
theorem verdict_of_answer {left right : Desk} {first second : Nat} (reached : left.Reached)
    (attained : right.Reached) (loads : left.Loads first place) (awaits : right.Loads second place)
    (read : Normalized.ofJson data = .ok answer) (flags : answer.Flags place) :
    ∃ shown seen : Verdict,
      (left.step (.resolve first (.ok data))).2.verdict? = some (place, shown) ∧
      (right.step (.resolve second (.ok data))).2.verdict? = some (place, seen) ∧
      shown.Judges place answer left.cache.read ∧ seen.Judges place answer right.cache.read ∧
      shown.Alike place answer seen := by
  obtain ⟨shown, first, judges⟩ := exists_verdict_of_loads reached loads read flags
  obtain ⟨seen, second, judged⟩ := exists_verdict_of_loads attained awaits read flags
  exact ⟨shown, seen, first, second, judges, judged, judges.alike flags judged⟩

/-- An answer gives the user the right to edit a realm that is stored without it, and with another
name: at that desk and at an empty one the page of the realm is shown with the name of the answer.
The number of realms below it, which the answer does not give, is shown where it is stored. -/
theorem verdict_of_answer_over_stale_rights :
    let old : Json := .obj [("__typename", .str "Realm"), ("canCurrentUserEdit", .bool false),
      ("id", .str "r"), ("name", .str "old"), ("numberOfDescendants", .int 3)]
    let data : Json := .obj [("realm", .obj [("__typename", .str "Realm"),
      ("canCurrentUserEdit", .bool true), ("id", .str "r"), ("name", .str "new")])]
    let answer : Normalized := ⟨.ofList [("realm", .link (.persisted "r"))],
      ⟨[(.persisted "r", ⟨"Realm", .ofList [("canCurrentUserEdit", .scalar (.bool true)),
        ("name", .scalar (.str "new"))]⟩)]⟩⟩
    let place : Place := .realmContent "/a"
    let left := (start .standard).run [.navigate place.url]
    let right := (start .standard).run [.navigate (Place.realmSettings "/a").url,
      .resolve 1 (.ok (.obj [("realm", old)])), .navigate place.url]
    let shown (numberOfDescendants : Int) : RealmView :=
      ⟨.persisted "r", some "new", "", false, true, numberOfDescendants, [], []⟩
    left.Loads 1 place ∧ right.Loads 2 place ∧ Normalized.ofJson data = .ok answer ∧
      answer.Flags place ∧
      (left.step (.resolve 1 (.ok data))).2.verdict? = some (place, .realm (shown 0)) ∧
      (right.step (.resolve 2 (.ok data))).2.verdict? = some (place, .realm (shown 3)) ∧
      Verdict.Alike place answer (.realm (shown 0)) (.realm (shown 3)) := by
  intro old data answer place left right shown
  have loads : left.Loads 1 place := by decide +kernel
  have awaits : right.Loads 2 place := by decide +kernel
  have read : Normalized.ofJson data = .ok answer := by decide +kernel
  have flags : answer.Flags place := by decide +kernel
  have first : (left.step (.resolve 1 (.ok data))).2.verdict? =
      some (place, .realm (shown 0)) := by decide +kernel
  have second : (right.step (.resolve 2 (.ok data))).2.verdict? =
      some (place, .realm (shown 3)) := by decide +kernel
  have reached := reached_of_start .standard
  obtain ⟨_, _, same, equal, -, -, alike⟩ :=
    verdict_of_answer (reached _) (reached _) loads awaits read flags
  rw [first, Option.some.injEq, Prod.mk.injEq] at same
  rw [second, Option.some.injEq, Prod.mk.injEq] at equal
  obtain ⟨-, rfl⟩ := same
  obtain ⟨-, rfl⟩ := equal
  exact ⟨loads, awaits, read, flags, first, second, alike⟩

/-- The verdict need not be the same: whoever has been at the settings of a realm, which give the
number of realms below it, is shown that number among the blocks of the realm as well. -/
theorem not_verdict_of_answer_alone :
    ¬∀ (left right : Desk) (first second : Nat) (place : Place) (data : Json)
      (answer : Normalized), left.Reached → right.Reached → left.Loads first place →
        right.Loads second place → Normalized.ofJson data = .ok answer → answer.Flags place →
        (left.step (.resolve first (.ok data))).2.verdict? =
          (right.step (.resolve second (.ok data))).2.verdict? := by
  intro alone
  let settings : Json := .obj [("realm", .obj [("__typename", .str "Realm"),
    ("canCurrentUserEdit", .bool true), ("children", .arr []), ("id", .str "r"),
    ("isRoot", .bool false), ("name", .str "A"), ("numberOfDescendants", .int 3),
    ("path", .str "/a")])]
  let content : Json := .obj [("realm", .obj [("__typename", .str "Realm"), ("blocks", .arr []),
    ("canCurrentUserEdit", .bool true), ("id", .str "r"), ("isRoot", .bool false),
    ("name", .str "A"), ("path", .str "/a")])]
  let answer : Normalized := ⟨.ofList [("realm", .link (.persisted "r"))],
    ⟨[(.persisted "r", ⟨"Realm", .ofList [("blocks", .links []),
      ("canCurrentUserEdit", .scalar (.bool true)), ("isRoot", .scalar (.bool false)),
      ("name", .scalar (.str "A")), ("path", .scalar (.str "/a"))]⟩)]⟩⟩
  let place : Place := .realmContent "/a"
  let left := (start .standard).run [.navigate place.url]
  let right := (start .standard).run [.navigate (Place.realmSettings "/a").url,
    .resolve 1 (.ok settings), .navigate place.url]
  have reached := reached_of_start .standard
  have same : (left.step (.resolve 1 (.ok content))).2.verdict? =
      (right.step (.resolve 2 (.ok content))).2.verdict? :=
    alone left right 1 2 place content answer (reached _) (reached _) (by decide +kernel)
      (by decide +kernel) (by decide +kernel) (by decide +kernel)
  exact absurd same (by decide +kernel)

end Desk

end RealmDesk
