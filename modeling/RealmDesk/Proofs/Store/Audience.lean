import RealmDesk.Proofs.Store.Garbage

/-!
# Subscribers and what they know

A subscriber looks at its record when it subscribes, and again whenever it is told to. That is
enough for what it remembers to stay true: whatever shows on the record through its selection of
fields is told, whichever operation did it, and nobody is told of anything else. Nothing is told of
a garbage collection, which cannot take a record away from a subscriber.
-/

namespace RealmDesk

namespace FieldSelection

/-- Whether a field is selected. -/
def selects : FieldSelection → String → Bool
  | .all, _ => true
  | .only names, field => names.contains field

/-- The type of a record with its selected fields. -/
def excerpt (selection : FieldSelection) (record : Record) : Record :=
  { record with fields := record.fields.filter fun field _ => selection.selects field }

/-- A record came, went or changed in a way that shows through a selection. -/
inductive Notices (selection : FieldSelection) : Option Record → Option Record → Prop where
  | created {after : Record} : Notices selection none (some after)
  | deleted {before : Record} : Notices selection (some before) none
  | retyped {before after : Record} (different : before.typeTag ≠ after.typeTag) :
      Notices selection (some before) (some after)
  /-- A selected field has another value, or is new or gone. -/
  | changed {before after : Record} {field : String} (selected : selection.selects field)
      (different : (before.get? field).map FieldValue.unsignedZeros ≠
        (after.get? field).map FieldValue.unsignedZeros) :
      Notices selection (some before) (some after)

variable {selection : FieldSelection} {before after : Option Record}

theorem get?_excerpt (selection : FieldSelection) (record : Record) (field : String) :
    (selection.excerpt record).get? field =
      if selection.selects field then record.get? field else none := by
  rw [excerpt, Record.get?, Record.get?, Std.ExtTreeMap.getElem?_filter']
  cases record.fields[field]? <;> cases selection.selects field <;> rfl

theorem map_excerpt_of_not_notices (unnoticed : ¬selection.Notices before after) :
    (before.map selection.excerpt).map Record.unsignedZeros =
      (after.map selection.excerpt).map Record.unsignedZeros := by
  cases before with
  | none =>
      cases after with
      | none => rfl
      | some after => exact absurd .created unnoticed
  | some before =>
      cases after with
      | none => exact absurd .deleted unnoticed
      | some after =>
          have tags : before.typeTag = after.typeTag := by
            by_contra different
            exact unnoticed (.retyped different)
          refine congrArg some (Record.eq_of_get? tags ?_)
          intro field
          rw [Record.get?_unsignedZeros, Record.get?_unsignedZeros, get?_excerpt, get?_excerpt]
          by_cases selected : selection.selects field = true
          · rw [if_pos selected, if_pos selected]
            by_contra different
            exact unnoticed (.changed selected different)
          · rw [if_neg selected, if_neg selected]

end FieldSelection

namespace RecordChange

variable {before after : Option Record} {selection : FieldSelection}

theorem of?_self (found : Option Record) : of? found found = none := by
  cases found with
  | none => rfl
  | some record =>
      have none : differing record record = [] := by
        refine List.eq_nil_iff_forall_not_mem.mpr ?_
        intro field listed
        simpa [agreesOn] using mem_differing.mp listed
      simp [of?, between?, none]

theorem notices_of_touches {change : RecordChange} (changed : of? before after = some change)
    (touches : change.touches selection = true) : selection.Notices before after := by
  cases before with
  | none =>
      cases after with
      | none => cases changed
      | some after => exact .created
  | some before =>
      cases after with
      | none => exact .deleted
      | some after =>
          have differ {field : String} (listed : field ∈ differing before after) :
              (before.get? field).map FieldValue.unsignedZeros ≠
                (after.get? field).map FieldValue.unsignedZeros := by
            simpa [agreesOn] using mem_differing.mp listed
          rw [of?, between?] at changed
          split at changed
          case isTrue different => exact .retyped different
          case isFalse =>
              cases names : differing before after with
              | nil => simp [names] at changed
              | cons name rest =>
                  obtain rfl : .fields (name :: rest) = change := by simpa [names] using changed
                  rw [names] at differ
                  cases selection with
                  | all => exact .changed rfl (differ List.mem_cons_self)
                  | only wanted =>
                      obtain ⟨field, listed, selected⟩ := List.any_eq_true.mp touches
                      exact .changed selected (differ listed)

theorem touches_of_notices (notices : selection.Notices before after) :
    ∃ change, of? before after = some change ∧ change.touches selection = true := by
  cases notices with
  | created => exact ⟨.whole, rfl, rfl⟩
  | deleted => exact ⟨.whole, rfl, rfl⟩
  | retyped different => exact ⟨.whole, if_pos different, rfl⟩
  | @changed before after field selected different =>
      by_cases tags : before.typeTag = after.typeTag
      · have listed : field ∈ differing before after :=
          mem_differing.mpr (by simpa [agreesOn] using different)
        refine ⟨.fields (differing before after), ?_, ?_⟩
        · rw [of?, between?, if_neg (not_not.mpr tags)]
          cases names : differing before after with
          | nil => simp [names] at listed
          | cons => rfl
        · cases selection with
          | all => rfl
          | only wanted => exact List.any_eq_true.mpr ⟨field, listed, selected⟩
      · exact ⟨.whole, if_pos tags, rfl⟩

/-- A change touches a selection exactly if it shows through it. -/
theorem touches_iff_notices :
    (∃ change, of? before after = some change ∧ change.touches selection = true) ↔
      selection.Notices before after := by
  constructor
  · rintro ⟨change, changed, touches⟩
    exact notices_of_touches changed touches
  · exact touches_of_notices

end RecordChange

/-! ## What is published of an update -/

/-- What a subscription shows of some records: nothing if its record is not there. -/
def Subscription.glance (subscription : Subscription) (records : Records) : Option Record :=
  records[subscription.record]?.map subscription.selection.excerpt

/-- What is published of a step from one store to another: the records afterwards, and in the order
of their numbers exactly those subscriptions through which the step shows. -/
structure Publication.Reports (publication : Publication) (before after : Store) : Prop where
  /-- The listeners see the records afterwards. -/
  records : publication.records = after.records
  /-- Subscriptions are due once, those that were made earlier first. -/
  ascending : publication.commit.due.Pairwise fun earlier later =>
    earlier.subscription < later.subscription
  /-- The step shows through a subscription that is due, and through no other one. -/
  due : ∀ due, due ∈ publication.commit.due ↔
    ∃ subscription, before.subscriptions[due.subscription]? = some subscription ∧
      subscription.record = due.record ∧
      subscription.selection.Notices before.records[due.record]? after.records[due.record]?

namespace Commit

variable {changes : Std.ExtTreeMap RecordId RecordChange}
  {subscriptions : Std.ExtTreeMap Nat Subscription}

/-- The notice that is due to a subscription, if a change touches it. -/
def due? (changes : Std.ExtTreeMap RecordId RecordChange) : Nat × Subscription → Option Due
  | (number, subscription) =>
      match changes[subscription.record]? with
      | some change =>
          if change.touches subscription.selection then some ⟨number, subscription.record⟩ else none
      | none => none

theorem due?_eq_some {number : Nat} {subscription : Subscription} {due : Due} :
    due? changes (number, subscription) = some due ↔
      (⟨number, subscription.record⟩ : Due) = due ∧
        ∃ change, changes[subscription.record]? = some change ∧
          change.touches subscription.selection = true := by
  rw [due?]
  cases changed : changes[subscription.record]? with
  | none => simp
  | some change => simp [and_comm]

theorem due_of (changes : Std.ExtTreeMap RecordId RecordChange)
    (subscriptions : Std.ExtTreeMap Nat Subscription) :
    (of changes subscriptions).due = subscriptions.toList.filterMap (due? changes) := rfl

theorem mem_due {due : Due} :
    due ∈ (of changes subscriptions).due ↔
      ∃ subscription, subscriptions[due.subscription]? = some subscription ∧
        subscription.record = due.record ∧
        ∃ change, changes[due.record]? = some change ∧
          change.touches subscription.selection = true := by
  rw [due_of, List.mem_filterMap]
  constructor
  · rintro ⟨⟨number, subscription⟩, listed, told⟩
    obtain ⟨rfl, touched⟩ := due?_eq_some.mp told
    exact ⟨subscription, Std.ExtTreeMap.mem_toList_iff_getElem?_eq_some.mp listed, rfl, touched⟩
  · obtain ⟨number, record⟩ := due
    rintro ⟨subscription, live, rfl, touched⟩
    exact ⟨(number, subscription), Std.ExtTreeMap.mem_toList_iff_getElem?_eq_some.mpr live,
      due?_eq_some.mpr ⟨rfl, touched⟩⟩

theorem pairwise_due (changes : Std.ExtTreeMap RecordId RecordChange)
    (subscriptions : Std.ExtTreeMap Nat Subscription) :
    (of changes subscriptions).due.Pairwise fun earlier later =>
      earlier.subscription < later.subscription := by
  rw [due_of]
  refine Std.ExtTreeMap.ordered_keys_toList.filterMap _ ?_
  intro earlier later ordered first told second toldToo
  obtain ⟨rfl, -⟩ := due?_eq_some.mp told
  obtain ⟨rfl, -⟩ := due?_eq_some.mp toldToo
  exact Nat.compare_eq_lt.mp ordered

end Commit

namespace Store

/-- The changes of a commit are those between the records before and after it. -/
theorem getElem?_changes (store : Store) (staged : Std.ExtTreeMap RecordId (Option Record))
    (id : RecordId) :
    (store.changes staged)[id]? =
      RecordChange.of? store.records[id]? (store.landed staged)[id]? := by
  rw [changes, Std.ExtTreeMap.getElem?_filterMap', getElem?_landed]
  cases staged[id]? with
  | none => exact (RecordChange.of?_self _).symm
  | some next =>
      change store.change? id next = RecordChange.of? store.records[id]?
        (if store.change? id next = none then store.records[id]? else next)
      by_cases unchanged : store.change? id next = none
      · rw [if_pos unchanged, RecordChange.of?_self, unchanged]
      · rw [if_neg unchanged, change?]

theorem reports_landed {store after : Store} {staged : Std.ExtTreeMap RecordId (Option Record)}
    (landed : after.records = store.landed staged) :
    Publication.Reports ⟨.of (store.changes staged) store.subscriptions, after.records⟩ store
      after := by
  refine ⟨rfl, Commit.pairwise_due _ _, ?_⟩
  intro due
  simp only [Commit.mem_due, getElem?_changes, RecordChange.touches_iff_notices, landed]

theorem mem_roots_of_subscribed {store : Store} {number : Nat} {subscription : Subscription}
    (live : store.subscriptions[number]? = some subscription) :
    subscription.record ∈ store.roots :=
  mem_roots.mpr (.inr ⟨number, subscription, live, rfl⟩)

end Store

/-! ## Steps -/

/-- What can be done to a cache. -/
inductive Cache.Action : Type 1 where
  /-- Merges a snapshot. -/
  | merge (snapshot : Snapshot)
  /-- Runs a local update. -/
  | update {ε α : Type} (edit : Edit ε α)
  | subscribe (record : RecordId) (selection : FieldSelection)
  | unsubscribe (number : Nat)
  | retain (roots : List RecordId)
  | release (token : Nat)
  | collectGarbage

namespace Cache

def perform (cache : Cache) : Action → Cache
  | .merge snapshot => cache.applySnapshot snapshot
  | .update edit => (cache.update edit).2
  | .subscribe record selection => (cache.subscribe record selection).2
  | .unsubscribe number => (cache.unsubscribe number).2
  | .retain roots => (cache.retain roots).2
  | .release token => (cache.release token).2
  | .collectGarbage => cache.collectGarbage.2

/-- A step of a cache of which at most one commit is published. Nothing shows through a
subscription that hears nothing. -/
structure Told (before after : Cache) (published : Option Publication) : Prop where
  journal : after.journal = before.journal ++ published.toList
  reports : ∀ publication ∈ published, publication.Reports before.store after.store
  unheard : ∀ {number : Nat} {subscription : Subscription},
    before.store.subscriptions[number]? = some subscription →
    (∀ publication ∈ published, ∀ due ∈ publication.commit.due, due.subscription ≠ number) →
    ¬subscription.selection.Notices before.store.records[subscription.record]?
      after.store.records[subscription.record]?

variable {before after : Cache}

/-- Nothing is told of a step that leaves the records of the subscriptions alone. -/
theorem Told.silent (journal : after.journal = before.journal)
    (kept : ∀ {number : Nat} {subscription : Subscription},
      before.store.subscriptions[number]? = some subscription →
      after.store.records[subscription.record]? = before.store.records[subscription.record]?) :
    before.Told after none := by
  refine ⟨by simpa using journal, nofun, ?_⟩
  intro number subscription live unheard notices
  rw [kept live] at notices
  obtain ⟨change, changed, -⟩ := RecordChange.touches_of_notices notices
  rw [RecordChange.of?_self] at changed
  cases changed

/-- A commit that is published is told, and one that is not published touches nobody. -/
theorem told_publish (cache : Cache) {store : Store}
    {staged : Std.ExtTreeMap RecordId (Option Record)}
    (landed : store.records = cache.store.landed staged) :
    ∃ published, cache.Told
      (cache.publish store (.of (cache.store.changes staged) cache.store.subscriptions))
      published := by
  have reports := Store.reports_landed landed
  have due {number : Nat} {subscription : Subscription}
      (live : cache.store.subscriptions[number]? = some subscription)
      (notices : subscription.selection.Notices cache.store.records[subscription.record]?
        store.records[subscription.record]?) :=
    (reports.due ⟨number, subscription.record⟩).mpr ⟨subscription, live, rfl, notices⟩
  rw [publish]
  split
  case isTrue nothing =>
    refine ⟨none, (List.append_nil _).symm, ?_, ?_⟩
    · intro publication absent
      cases absent
    · intro number subscription live unheard notices
      obtain ⟨-, -, -, change, changed, -⟩ := Commit.mem_due.mp (due live notices)
      have none : cache.store.changes staged = ∅ := Std.ExtTreeMap.isEmpty_iff.mp nothing
      simp [none] at changed
  case isFalse =>
    refine ⟨some _, rfl, ?_, ?_⟩
    · rintro publication ⟨⟩
      exact reports
    · intro number subscription live unheard notices
      exact unheard _ rfl _ (due live notices) rfl

theorem told_update {ε α : Type} (cache : Cache) (edit : Edit ε α) :
    ∃ published, cache.Told (cache.update edit).2 published := by
  rw [update, Store.update]
  cases edit.run (.start cache.store.records cache.store.lastPending) with
  | mk result draft =>
      cases result with
      | ok value => exact cache.told_publish rfl
      | error error => exact ⟨none, .silent rfl fun _ => rfl⟩

/-- Whatever shows through a subscription is told, whichever action it is that does it. -/
theorem told_perform (cache : Cache) (action : Action) :
    ∃ published, cache.Told (cache.perform action) published := by
  cases action with
  | merge snapshot => exact cache.told_update (Edit.mergeSnapshot (ε := Empty) snapshot)
  | update edit => exact cache.told_update edit
  | subscribe record selection => exact ⟨none, .silent rfl fun _ => rfl⟩
  | unsubscribe number => exact ⟨none, .silent rfl fun _ => rfl⟩
  | retain roots => exact ⟨none, .silent rfl fun _ => rfl⟩
  | release token => exact ⟨none, .silent rfl fun _ => rfl⟩
  | collectGarbage =>
      refine ⟨none, .silent rfl ?_⟩
      intro number subscription live
      exact Store.getElem?_collectGarbage_of_root (Store.mem_roots_of_subscribed live)

theorem subscriptions_update {ε α : Type} (cache : Cache) (edit : Edit ε α) :
    (cache.update edit).2.store.subscriptions = cache.store.subscriptions ∧
      (cache.update edit).2.store.lastSubscription = cache.store.lastSubscription := by
  rw [update, Store.update]
  cases edit.run (.start cache.store.records cache.store.lastPending) with
  | mk result draft => cases result <;> simp

theorem subscribed_perform (cache : Cache) (action : Action) {number : Nat}
    {subscription : Subscription}
    (live : (cache.perform action).store.subscriptions[number]? = some subscription) :
    cache.store.subscriptions[number]? = some subscription ∨
      action = .subscribe subscription.record subscription.selection ∧
        number = cache.store.lastSubscription + 1 := by
  cases action with
  | merge snapshot =>
      left
      rwa [← (cache.subscriptions_update (Edit.mergeSnapshot (ε := Empty) snapshot)).1]
  | update edit =>
      left
      rwa [← (cache.subscriptions_update edit).1]
  | subscribe record selection =>
      change (cache.store.subscriptions.insert _ _)[number]? = _ at live
      rw [Std.ExtTreeMap.getElem?_insert] at live
      split at live
      case isTrue same =>
        obtain rfl := Option.some.inj live
        exact .inr ⟨rfl, (Nat.compare_eq_eq.mp same).symm⟩
      case isFalse => exact .inl live
  | unsubscribe ended =>
      change (cache.store.subscriptions.erase ended)[number]? = _ at live
      rw [Std.ExtTreeMap.getElem?_erase] at live
      split at live
      · cases live
      · exact .inl live
  | retain roots => exact .inl live
  | release token => exact .inl live
  | collectGarbage => exact .inl live

theorem lastSubscription_perform (cache : Cache) (action : Action) :
    cache.store.lastSubscription ≤ (cache.perform action).store.lastSubscription := by
  cases action with
  | merge snapshot =>
      exact Nat.le_of_eq
        (cache.subscriptions_update (Edit.mergeSnapshot (ε := Empty) snapshot)).2.symm
  | update edit => exact Nat.le_of_eq (cache.subscriptions_update edit).2.symm
  | subscribe record selection => exact Nat.le_succ _
  | unsubscribe number => exact Nat.le_refl _
  | retain roots => exact Nat.le_refl _
  | release token => exact Nat.le_refl _
  | collectGarbage => exact Nat.le_refl _

end Cache

/-- A cache, with what each subscriber saw when it last looked. -/
structure Audience where
  /-- The cache. -/
  cache : Cache := {}
  /-- What the subscribers remember, by the numbers of their subscriptions. -/
  remembered : Nat → Option Record := fun _ => none

namespace Audience

/-- What is remembered after a publication: whoever is due looks at the records again. -/
def hear (subscriptions : Std.ExtTreeMap Nat Subscription) (remembered : Nat → Option Record)
    (publication : Publication) : Nat → Option Record := fun number =>
  match subscriptions[number]? with
  | some subscription =>
      if publication.commit.due.any (·.subscription == number) then
        subscription.glance publication.records
      else remembered number
  | none => remembered number

/-- Does something to the cache. Whoever is due to hear of it looks, and so does whoever just
subscribed. -/
def step (audience : Audience) (action : Cache.Action) : Audience :=
  let cache := audience.cache.perform action
  let published := cache.journal.drop audience.cache.journal.length
  let remembered := published.foldl (hear cache.store.subscriptions) audience.remembered
  match action with
  | .subscribe record selection =>
      let number := (audience.cache.subscribe record selection).1
      { cache, remembered := Function.update remembered number
          (Subscription.glance ⟨record, selection⟩ cache.store.records) }
  | _ => { cache, remembered }

/-- Does some things to an empty cache. -/
def run (actions : List Cache.Action) : Audience :=
  actions.foldl step {}

/-- What subscribers remember is so, and their numbers are in the order in which they subscribed. -/
structure Attuned (audience : Audience) : Prop where
  /-- What is remembered is what the subscription shows now. -/
  remembered : ∀ {number : Nat} {subscription : Subscription},
    audience.cache.store.subscriptions[number]? = some subscription →
    (audience.remembered number).map Record.unsignedZeros =
      (subscription.glance audience.cache.store.records).map Record.unsignedZeros
  /-- Whoever subscribes next comes last. -/
  ordered : ∀ {number : Nat} {subscription : Subscription},
    audience.cache.store.subscriptions[number]? = some subscription →
    ∀ record selection, number < (audience.cache.subscribe record selection).1

variable {audience : Audience}

theorem cache_step (audience : Audience) (action : Cache.Action) :
    (audience.step action).cache = audience.cache.perform action := by
  cases action <;> rfl

theorem remembered_step_of_ne (audience : Audience) (action : Cache.Action) {number : Nat}
    (old : number ≠ audience.cache.store.lastSubscription + 1) :
    (audience.step action).remembered number =
      ((audience.cache.perform action).journal.drop audience.cache.journal.length).foldl
        (hear (audience.cache.perform action).store.subscriptions) audience.remembered number := by
  cases action with
  | subscribe record selection => exact Function.update_of_ne old _ _
  | _ => rfl

/-- A subscriber that is told of a step looks, and to one that is not told nothing has changed. -/
theorem map_remembered_of_told {after : Cache} {published : Option Publication}
    (told : audience.cache.Told after published) {number : Nat} {subscription : Subscription}
    (remembered : (audience.remembered number).map Record.unsignedZeros =
      (subscription.glance audience.cache.store.records).map Record.unsignedZeros)
    (before : audience.cache.store.subscriptions[number]? = some subscription)
    (live : after.store.subscriptions[number]? = some subscription) :
    (published.toList.foldl (hear after.store.subscriptions) audience.remembered number).map
        Record.unsignedZeros =
      (subscription.glance after.store.records).map Record.unsignedZeros := by
  have kept (unheard : ∀ publication ∈ published, ∀ due ∈ publication.commit.due,
      due.subscription ≠ number) :
      (audience.remembered number).map Record.unsignedZeros =
        (subscription.glance after.store.records).map Record.unsignedZeros :=
    remembered.trans (FieldSelection.map_excerpt_of_not_notices (told.unheard before unheard))
  cases published with
  | none => exact kept nofun
  | some publication =>
      change (hear after.store.subscriptions audience.remembered publication number).map _ = _
      simp only [hear, live]
      split
      case isTrue => rw [(told.reports publication rfl).records]
      case isFalse unheard =>
        refine kept ?_
        rintro _ ⟨⟩ due listed same
        exact unheard (List.any_eq_true.mpr ⟨due, listed, beq_iff_eq.mpr same⟩)

theorem Attuned.step (attuned : audience.Attuned) (action : Cache.Action) :
    (audience.step action).Attuned := by
  obtain ⟨published, told⟩ := audience.cache.told_perform action
  constructor
  · intro number subscription live
    rw [cache_step] at live ⊢
    rcases audience.cache.subscribed_perform action live with before | ⟨rfl, rfl⟩
    · have old := Nat.ne_of_lt (attuned.ordered before subscription.record subscription.selection)
      rw [remembered_step_of_ne audience action old, told.journal, List.drop_left]
      exact map_remembered_of_told told (attuned.remembered before) before live
    · exact congrArg (Option.map Record.unsignedZeros) (Function.update_self _ _ _)
  · intro number subscription live record selection
    rw [cache_step] at live ⊢
    rcases audience.cache.subscribed_perform action live with before | ⟨rfl, rfl⟩
    · have next := attuned.ordered before record selection
      have grown := audience.cache.lastSubscription_perform action
      exact Nat.lt_of_lt_of_le next (Nat.succ_le_succ grown)
    · exact Nat.lt_succ_self _

theorem Attuned.steps (attuned : audience.Attuned) (actions : List Cache.Action) :
    (actions.foldl Audience.step audience).Attuned := by
  induction actions generalizing audience with
  | nil => exact attuned
  | cons action actions induction => exact induction (attuned.step action)

theorem attuned_start : Attuned {} := by
  constructor <;>
  · intro number subscription live
    cases live

/-- Subscribers stay attuned to the records, and they hear of nothing else. After every run of
actions what a subscriber remembers is what its subscription shows. Whatever is done next, at most
one commit is published of it, and it is due to those subscribers through whose subscriptions the
step shows, once to each, in the order in which they subscribed. -/
theorem attuned_run (actions : List Cache.Action) :
    let audience := run actions
    audience.Attuned ∧ ∀ action, ∃ published : Option Publication,
      (audience.step action).cache.journal = audience.cache.journal ++ published.toList ∧
        ∀ publication ∈ published,
          publication.Reports audience.cache.store (audience.step action).cache.store := by
  intro audience
  constructor
  · exact attuned_start.steps actions
  · intro action
    obtain ⟨published, told⟩ := audience.cache.told_perform action
    rw [cache_step]
    exact ⟨published, told.journal, told.reports⟩

end Audience

end RealmDesk
