import Mathlib.Data.List.Basic
import RealmDesk.Proofs.Store.Update
import RealmDesk.Store.Script

/-!
# Scripts as edits of a plain copy

A local update stages its writes over records that stay as they are, and lands them at its end. A
script cannot tell: its commands reply as if each of them edited a private copy of the records in
place. The copy is what a script that ends well leaves behind, and a script that fails leaves
nothing behind but the count of the pending ids that it gave out. The commands that an update runs
on a store are a script, also where it looks at a reply before it goes on.
-/

namespace RealmDesk

namespace Reply

/-- The reply with every negative zero read as zero. -/
def unsignedZeros : Reply → Reply
  | .record found => .record (found.map Record.unsignedZeros)
  | other => other

/-- The pending id that a reply gives out. -/
def allocated? : Reply → Option RecordId
  | .allocated id => some id
  | _ => none

/-- Whether a command failed. -/
def isFailure : Reply → Bool
  | .failed _ => true
  | _ => false

/-- The reply to a command with a result. -/
def ofResult : Except StoreError Reply → Reply
  | .ok reply => reply
  | .error error => .failed error

@[simp] theorem allocated?_unsignedZeros (reply : Reply) :
    reply.unsignedZeros.allocated? = reply.allocated? := by
  cases reply <;> rfl

end Reply

/-- The replies of the commands that ran. -/
def Script.replies : Except (List Reply) (List Reply) → List Reply
  | .ok replies | .error replies => replies

/-- The pending ids that a script gave out, in their order. -/
def Script.allocated (result : Except (List Reply) (List Reply)) : List RecordId :=
  (Script.replies result).filterMap Reply.allocated?

/-- A private copy of the records, edited in place. -/
structure PlainCopy where
  /-- The records. -/
  records : Records
  /-- The number of the pending id that was given out last. -/
  lastPending : Nat

/-- What a script comes to on a plain copy. -/
structure PlainCopy.Course where
  /-- The replies of the commands that ran. -/
  replies : List Reply
  /-- Whether the script ended well. -/
  completed : Bool
  /-- The copy after them. -/
  copy : PlainCopy

namespace PlainCopy

def insert (copy : PlainCopy) (id : RecordId) (record : Record) : PlainCopy :=
  { copy with records := copy.records.insert id record }

def setField (copy : PlainCopy) (id : RecordId) (field : String) (value : FieldValue) :
    Reply × PlainCopy :=
  match copy.records[id]? with
  | some record => (.done, copy.insert id (record.set field value))
  | none => (.failed (.missing id), copy)

def merge (copy : PlainCopy) (id : RecordId) (incoming : Record) : PlainCopy :=
  match copy.records[id]? with
  | some record => copy.insert id (record.merge incoming)
  | none => copy.insert id incoming

/-- Carries out a command in place. -/
def carryOut (copy : PlainCopy) : Command → Reply × PlainCopy
  | .allocate =>
      (.allocated (.pending (copy.lastPending + 1)),
        { copy with lastPending := copy.lastPending + 1 })
  | .create id record =>
      match copy.records[id]? with
      | some _ => (.failed (.present id), copy)
      | none => (.done, copy.insert id record)
  | .setField id field value => copy.setField id field value
  | .links id field =>
      match copy.records[id]? with
      | some record => (.links (record.links field), copy)
      | none => (.failed (.missing id), copy)
  | .setLinks id field targets => copy.setField id field (.links targets)
  | .delete id =>
      (.deleted (copy.records.contains id), { copy with records := copy.records.erase id })
  | .merge id record => (.done, copy.merge id record)
  | .mergeSnapshot snapshot =>
      (.done, snapshot.entries.foldl (fun copy entry => copy.merge entry.1 entry.2) copy)
  | .get id => (.record copy.records[id]?, copy)

/-- Carries out the commands of a script one by one, until one fails that may not. -/
def follow (copy : PlainCopy) : Script → Course
  | [] => ⟨[], true, copy⟩
  | .abort :: _ => ⟨[], false, copy⟩
  | .command command tolerated :: steps =>
      let (reply, next) := copy.carryOut command
      if reply.isFailure && !tolerated then ⟨[reply], false, next⟩
      else
        let course := next.follow steps
        { course with replies := reply :: course.replies }

end PlainCopy

theorem Records.view_insert (records : Records) (id : RecordId) (record : Record) :
    view (records.insert id record) =
      Function.update records.view id (some record.unsignedZeros) := by
  funext other
  by_cases same : other = id
  · subst same
    simp [view]
  · simp [view, Std.ExtTreeMap.getElem?_insert, same, Ne.symm same]

theorem Records.view_erase (records : Records) (id : RecordId) :
    view (records.erase id) = Function.update records.view id none := by
  funext other
  by_cases same : other = id
  · subst same
    simp [view]
  · simp [view, Std.ExtTreeMap.getElem?_erase, same, Ne.symm same]

namespace PlainCopy

/-- A draft shows the records of a copy, and counts pending ids as the copy does. -/
structure Mirrors (copy : PlainCopy) (draft : Draft) : Prop where
  /-- The records look alike. -/
  view : draft.view = copy.records.view
  /-- The same pending id comes next. -/
  lastPending : draft.lastPending = copy.lastPending

variable {copy : PlainCopy} {draft : Draft}

theorem mirrors_start (records : Records) (lastPending : Nat) :
    Mirrors ⟨records, lastPending⟩ (.start records lastPending) :=
  ⟨Draft.view_start records lastPending, rfl⟩

namespace Mirrors

theorem map_get? (mirrors : copy.Mirrors draft) (id : RecordId) :
    (draft.get? id).map Record.unsignedZeros = copy.records[id]?.map Record.unsignedZeros :=
  congrFun mirrors.view id

theorem get?_of_none (mirrors : copy.Mirrors draft) {id : RecordId}
    (absent : copy.records[id]? = none) : draft.get? id = none := by
  have alike := mirrors.map_get? id
  rw [absent] at alike
  exact Option.map_eq_none_iff.mp alike

theorem get?_of_some (mirrors : copy.Mirrors draft) {id : RecordId} {record : Record}
    (stored : copy.records[id]? = some record) :
    ∃ shown, draft.get? id = some shown ∧ shown.unsignedZeros = record.unsignedZeros := by
  have alike := mirrors.map_get? id
  rw [stored] at alike
  exact Option.map_eq_some_iff.mp alike

theorem insert (mirrors : copy.Mirrors draft) (id : RecordId) {record staged : Record}
    (same : staged.unsignedZeros = record.unsignedZeros) :
    (copy.insert id record).Mirrors (draft.stage id (some staged)) := by
  constructor
  · rw [Draft.view_stage, PlainCopy.insert, Records.view_insert, mirrors.view, Option.map_some,
      same]
  · exact mirrors.lastPending

theorem merge (mirrors : copy.Mirrors draft) (id : RecordId) (incoming : Record) :
    (copy.merge id incoming).Mirrors (draft.merge id incoming) := by
  rw [PlainCopy.merge, Draft.merge]
  cases stored : copy.records[id]? with
  | none =>
      rw [mirrors.get?_of_none stored]
      exact mirrors.insert id rfl
  | some record =>
      obtain ⟨shown, found, same⟩ := mirrors.get?_of_some stored
      rw [found]
      exact mirrors.insert id (by rw [Record.unsignedZeros_merge, Record.unsignedZeros_merge, same])

theorem mergeAll (mirrors : copy.Mirrors draft) (entries : List (RecordId × Record)) :
    (entries.foldl (fun copy entry => copy.merge entry.1 entry.2) copy).Mirrors
      (entries.foldl (fun draft entry => draft.merge entry.1 entry.2) draft) := by
  induction entries generalizing copy draft with
  | nil => exact mirrors
  | cons entry entries induction => exact induction (mirrors.merge entry.1 entry.2)

end Mirrors

/-- A command that was carried out on a draft: it replied as on a copy, and the draft looks like the
copy still. -/
structure Agrees (draft : Draft) (ran : Except StoreError Reply × Draft)
    (done : Reply × PlainCopy) : Prop where
  /-- The replies are the same. -/
  reply : (Reply.ofResult ran.1).unsignedZeros = done.1.unsignedZeros
  /-- It failed on both or on neither. -/
  failed : (∃ error, ran.1 = .error error) ↔ done.1.isFailure
  /-- The draft looks like the copy. -/
  mirrors : done.2.Mirrors ran.2
  /-- The records below the draft are as they were. -/
  base : ran.2.base = draft.base

theorem Agrees.of_ok {ran : Except StoreError Reply × Draft} {next : Draft} {reply own : Reply}
    {after : PlainCopy} (outcome : ran = (.ok own, next))
    (same : own.unsignedZeros = reply.unsignedZeros) (sound : reply.isFailure = false)
    (mirrors : after.Mirrors next) (base : next.base = draft.base) :
    Agrees draft ran (reply, after) := by
  subst outcome
  exact ⟨same, by simp [sound], mirrors, base⟩

theorem Agrees.of_error {ran : Except StoreError Reply × Draft} {error : StoreError}
    (outcome : ran = (.error error, draft)) (mirrors : copy.Mirrors draft) :
    Agrees draft ran (.failed error, copy) := by
  subst outcome
  exact ⟨rfl, by simp [Reply.isFailure], mirrors, rfl⟩

theorem agrees_setField (mirrors : copy.Mirrors draft) (id : RecordId) (field : String)
    (value : FieldValue) :
    Agrees draft ((Edit.setField id field value >>= fun _ => pure .done).run draft)
      (copy.setField id field value) := by
  rw [setField]
  cases stored : copy.records[id]? with
  | none =>
      have absent := mirrors.get?_of_none stored
      exact .of_error (Edit.run_bind_of_error _ (Edit.run_setField_of_absent field value absent))
        mirrors
  | some record =>
      obtain ⟨shown, found, same⟩ := mirrors.get?_of_some stored
      have written : (shown.update field value).unsignedZeros =
          (record.set field value).unsignedZeros := by
        rw [Record.unsignedZeros_update, Record.unsignedZeros_set, same]
      exact .of_ok (Edit.run_bind_of_ok _ (Edit.run_setField_of_present field value found)) rfl rfl
        (mirrors.insert id written) rfl

/-- Every command does to a draft what it does to the copy that the draft looks like. -/
theorem agrees_run (mirrors : copy.Mirrors draft) (command : Command) :
    Agrees draft (command.run.run draft) (copy.carryOut command) := by
  cases command with
  | allocate =>
      have next : Mirrors { copy with lastPending := copy.lastPending + 1 }
          { draft with lastPending := draft.lastPending + 1 } :=
        ⟨mirrors.view, congrArg (· + 1) mirrors.lastPending⟩
      refine .of_ok (Edit.run_bind_of_ok _ (Edit.run_allocate draft)) ?_ rfl next rfl
      rw [mirrors.lastPending]
  | create id record =>
      rw [carryOut]
      cases stored : copy.records[id]? with
      | none =>
          have absent := mirrors.get?_of_none stored
          exact .of_ok (Edit.run_bind_of_ok _ (Edit.run_create_of_absent record absent)) rfl rfl
            (mirrors.insert id rfl) rfl
      | some present =>
          obtain ⟨shown, found, -⟩ := mirrors.get?_of_some stored
          exact .of_error (Edit.run_bind_of_error _ (Edit.run_create_of_present record found))
            mirrors
  | setField id field value => exact agrees_setField mirrors id field value
  | links id field =>
      rw [carryOut]
      cases stored : copy.records[id]? with
      | none =>
          have absent := mirrors.get?_of_none stored
          exact .of_error (Edit.run_bind_of_error _ (Edit.run_links_of_absent field absent)) mirrors
      | some record =>
          obtain ⟨shown, found, same⟩ := mirrors.get?_of_some stored
          have listed : shown.links field = record.links field := by
            rw [← Record.links_unsignedZeros, same, Record.links_unsignedZeros]
          refine .of_ok (Edit.run_bind_of_ok _ (Edit.run_links_of_present field found)) ?_ rfl
            mirrors rfl
          rw [listed]
  | setLinks id field targets => exact agrees_setField mirrors id field (.links targets)
  | delete id =>
      have next : Mirrors { copy with records := copy.records.erase id } (draft.stage id none) := by
        constructor
        · rw [Draft.view_stage, Records.view_erase, mirrors.view, Option.map_none]
        · exact mirrors.lastPending
      have present : (draft.get? id).isSome = copy.records.contains id := by
        rw [Std.ExtTreeMap.contains_eq_isSome_getElem?, ← Option.isSome_map, mirrors.map_get?,
          Option.isSome_map]
      refine .of_ok (Edit.run_bind_of_ok _ (Edit.run_delete id draft)) ?_ rfl next rfl
      rw [present]
  | merge id record =>
      have base : (draft.merge id record).base = draft.base := by
        rw [Draft.merge_eq_stage, Draft.base_stage]
      exact .of_ok (Edit.run_bind_of_ok _ rfl) rfl rfl (mirrors.merge id record) base
  | mergeSnapshot snapshot =>
      exact .of_ok (Edit.run_bind_of_ok _ (Edit.run_mergeSnapshot snapshot draft)) rfl rfl
        (mirrors.mergeAll snapshot.entries) (draft.mergeSnapshot_frame snapshot).1
  | get id =>
      refine .of_ok (Edit.run_bind_of_ok _ (Edit.run_get? id draft)) ?_ rfl mirrors rfl
      exact congrArg Reply.record (mirrors.map_get? id)

/-! ## Whole scripts -/

variable {command : Command} {replies : List Reply} {tolerated : Bool} {next : Draft}

theorem runAfter_of_ok {reply : Reply} (ran : command.run.run draft = (.ok reply, next))
    (steps : Script) :
    (Script.runAfter replies (.command command tolerated :: steps)).run draft =
      (Script.runAfter (replies ++ [reply]) steps).run next := by
  change command.run draft = (.ok reply, next) at ran
  change Script.runAfter replies (.command command tolerated :: steps) draft = _
  rw [Script.runAfter]
  beta_reduce
  rw [ran]
  rfl

theorem runAfter_of_error {error : StoreError} (ran : command.run.run draft = (.error error, next))
    (steps : Script) :
    (Script.runAfter replies (.command command tolerated :: steps)).run draft =
      if tolerated then (Script.runAfter (replies ++ [.failed error]) steps).run next
      else (.error (replies ++ [.failed error]), next) := by
  change command.run draft = (.error error, next) at ran
  change Script.runAfter replies (.command command tolerated :: steps) draft = _
  rw [Script.runAfter]
  beta_reduce
  rw [ran]
  rfl

theorem follow_command (copy : PlainCopy) (command : Command) (tolerated : Bool) (steps : Script) :
    copy.follow (.command command tolerated :: steps) =
      if (copy.carryOut command).1.isFailure && !tolerated then
        ⟨[(copy.carryOut command).1], false, (copy.carryOut command).2⟩
      else
        { (copy.carryOut command).2.follow steps with
          replies := (copy.carryOut command).1 ::
            ((copy.carryOut command).2.follow steps).replies } := rfl

/-- What a script that runs on a draft, after others whose replies are given, has in common with its
course on a copy. -/
def Follows (draft : Draft) (replies : List Reply)
    (ran : Except (List Reply) (List Reply) × Draft) (course : Course) : Prop :=
  ∃ own last, ran =
      (if course.completed then .ok (replies ++ own) else .error (replies ++ own), last) ∧
    own.map Reply.unsignedZeros = course.replies.map Reply.unsignedZeros ∧
    course.copy.Mirrors last ∧ last.base = draft.base

theorem Follows.cons {result : Except StoreError Reply}
    {ran : Except (List Reply) (List Reply) × Draft} {done : Reply × PlainCopy} {course : Course}
    (agrees : Agrees draft (result, next) done)
    (follows : Follows next (replies ++ [Reply.ofResult result]) ran course) :
    Follows draft replies ran { course with replies := done.1 :: course.replies } := by
  obtain ⟨rest, last, rfl, same, mirrors, base⟩ := follows
  refine ⟨Reply.ofResult result :: rest, last, by simp, ?_, mirrors, base.trans agrees.base⟩
  rw [List.map_cons, List.map_cons, same, agrees.reply]

/-- A script follows the course that it takes on the copy that its draft looks like. -/
theorem follows_runAfter (mirrors : copy.Mirrors draft) (script : Script) (replies : List Reply) :
    Follows draft replies ((script.runAfter replies).run draft) (copy.follow script) := by
  induction script generalizing copy draft replies with
  | nil => exact ⟨[], draft, by rw [List.append_nil]; rfl, rfl, mirrors, rfl⟩
  | cons step steps induction =>
      cases step with
      | abort => exact ⟨[], draft, by rw [List.append_nil]; rfl, rfl, mirrors, rfl⟩
      | command command tolerated =>
          have agrees := agrees_run mirrors command
          rw [follow_command]
          cases ran : command.run.run draft with
          | mk result next =>
              rw [ran] at agrees
              have continued := (induction agrees.mirrors (replies ++ [Reply.ofResult result])).cons
                agrees
              cases result with
              | ok reply =>
                  have sound : (copy.carryOut command).1.isFailure = false := by
                    simpa using agrees.failed
                  rw [runAfter_of_ok ran, if_neg (by simp [sound])]
                  exact continued
              | error error =>
                  have failed : (copy.carryOut command).1.isFailure = true :=
                    agrees.failed.mp ⟨error, rfl⟩
                  rw [runAfter_of_error ran]
                  cases tolerated with
                  | true =>
                      rw [if_pos rfl, if_neg (by simp)]
                      exact continued
                  | false =>
                      rw [if_neg (by simp), if_pos (by simp [failed])]
                      have alone : [Reply.unsignedZeros (.failed error)] =
                          [(copy.carryOut command).1.unsignedZeros] :=
                        congrArg (fun reply => [reply]) agrees.reply
                      exact ⟨[.failed error], next, rfl, alone, agrees.mirrors, agrees.base⟩

/-- Pending ids that were given out one after the other, between two counts. -/
def GivenOut (before : Nat) (ids : List RecordId) (after : Nat) : Prop :=
  after = before + ids.length ∧ ids = (List.range' (before + 1) ids.length).map .pending

theorem GivenOut.append {before middle after : Nat} {ids others : List RecordId}
    (first : GivenOut before ids middle) (second : GivenOut middle others after) :
    GivenOut before (ids ++ others) after := by
  obtain ⟨counted, numbered⟩ := first
  obtain ⟨further, renumbered⟩ := second
  constructor
  · rw [List.length_append]
    omega
  · rw [List.length_append, ← List.range'_append_1, List.map_append, ← numbered]
    have begins : before + 1 + ids.length = middle + 1 := by omega
    rw [begins, ← renumbered]

theorem GivenOut.bounds {before after : Nat} {ids : List RecordId} {id : RecordId}
    (given : GivenOut before ids after) (member : id ∈ ids) :
    ∃ number, id = .pending number ∧ before < number ∧ number ≤ after := by
  obtain ⟨counted, numbered⟩ := given
  rw [numbered] at member
  obtain ⟨number, within, rfl⟩ := List.mem_map.mp member
  rw [List.mem_range'_1] at within
  exact ⟨number, rfl, by omega, by omega⟩

theorem lastPending_merge (copy : PlainCopy) (id : RecordId) (incoming : Record) :
    (copy.merge id incoming).lastPending = copy.lastPending := by
  rw [merge]
  split <;> rfl

theorem lastPending_mergeAll (copy : PlainCopy) (entries : List (RecordId × Record)) :
    (entries.foldl (fun copy entry => copy.merge entry.1 entry.2) copy).lastPending =
      copy.lastPending := by
  induction entries generalizing copy with
  | nil => rfl
  | cons entry entries induction => rw [List.foldl_cons, induction, lastPending_merge]

/-- No command but the one that is there for it gives out a pending id. -/
theorem kept_carryOut (copy : PlainCopy) {command : Command} (other : command ≠ .allocate) :
    (copy.carryOut command).1.allocated? = none ∧
      (copy.carryOut command).2.lastPending = copy.lastPending := by
  have kept_setField (id : RecordId) (field : String) (value : FieldValue) :
      (copy.setField id field value).1.allocated? = none ∧
        (copy.setField id field value).2.lastPending = copy.lastPending := by
    rw [setField]
    split <;> exact ⟨rfl, rfl⟩
  cases command with
  | allocate => exact absurd rfl other
  | create id record =>
      rw [carryOut]
      split <;> exact ⟨rfl, rfl⟩
  | setField id field value => exact kept_setField id field value
  | links id field =>
      rw [carryOut]
      split <;> exact ⟨rfl, rfl⟩
  | setLinks id field targets => exact kept_setField id field (.links targets)
  | delete id => exact ⟨rfl, rfl⟩
  | merge id record => exact ⟨rfl, copy.lastPending_merge id record⟩
  | mergeSnapshot snapshot => exact ⟨rfl, copy.lastPending_mergeAll snapshot.entries⟩
  | get id => exact ⟨rfl, rfl⟩

theorem givenOut_carryOut (copy : PlainCopy) (command : Command) :
    GivenOut copy.lastPending (copy.carryOut command).1.allocated?.toList
      (copy.carryOut command).2.lastPending := by
  by_cases allocates : command = .allocate
  · subst allocates
    exact ⟨rfl, rfl⟩
  · obtain ⟨nothing, kept⟩ := copy.kept_carryOut allocates
    rw [nothing, kept]
    exact ⟨rfl, rfl⟩

/-- A script gives out pending ids one after the other, whether it ends well or not. -/
theorem givenOut_follow (copy : PlainCopy) (script : Script) :
    GivenOut copy.lastPending ((copy.follow script).replies.filterMap Reply.allocated?)
      (copy.follow script).copy.lastPending := by
  induction script generalizing copy with
  | nil => exact ⟨rfl, rfl⟩
  | cons step steps induction =>
      cases step with
      | abort => exact ⟨rfl, rfl⟩
      | command command tolerated =>
          have given := copy.givenOut_carryOut command
          have first (reply : Reply) (replies : List Reply) :
              (reply :: replies).filterMap Reply.allocated? =
                reply.allocated?.toList ++ replies.filterMap Reply.allocated? := by
            cases allocated : reply.allocated? <;> simp [allocated]
          rw [follow_command]
          split
          case isTrue =>
            rw [first, List.filterMap_nil, List.append_nil]
            exact given
          case isFalse =>
            rw [first]
            exact given.append (induction _)

end PlainCopy

/-! ## Local updates -/

namespace Store

/-- The store after some scripts, each in a local update of its own. -/
def updateAll (store : Store) (scripts : List Script) : Store :=
  scripts.foldl (fun store script => (store.update script.run).store) store

/-- What a script comes to on a private plain copy of the records. -/
def plainCourse (store : Store) (script : Script) : PlainCopy.Course :=
  PlainCopy.follow ⟨store.records, store.lastPending⟩ script

theorem update_script_cases (store : Store) (script : Script) :
    ∃ own last, own.map Reply.unsignedZeros =
        (store.plainCourse script).replies.map Reply.unsignedZeros ∧
      (store.plainCourse script).copy.Mirrors last ∧ last.base = store.records ∧
      store.update script.run =
        if (store.plainCourse script).completed then
          { result := .ok own
            store := { store with
              records := store.landed last.staged, lastPending := last.lastPending }
            commit := .of (store.changes last.staged) store.subscriptions }
        else
          { result := .error own
            store := { store with lastPending := last.lastPending }
            commit := .empty } := by
  obtain ⟨own, last, ran, same, mirrors, base⟩ := PlainCopy.follows_runAfter
    (PlainCopy.mirrors_start store.records store.lastPending) script []
  refine ⟨own, last, same, mirrors, base, ?_⟩
  change script.run.run (.start store.records store.lastPending) =
    (if (store.plainCourse script).completed then .ok own else .error own, last) at ran
  by_cases completed : (store.plainCourse script).completed = true
  · rw [if_pos completed] at ran
    simp only [update, ran, if_pos completed]
  · rw [if_neg completed] at ran
    simp only [update, ran, if_neg completed]

theorem givenOut_update (store : Store) (script : Script) :
    PlainCopy.GivenOut store.lastPending (Script.allocated (store.update script.run).result)
      (store.update script.run).store.lastPending := by
  obtain ⟨own, last, same, mirrors, base, written⟩ := store.update_script_cases script
  have given := PlainCopy.givenOut_follow ⟨store.records, store.lastPending⟩ script
  have allocated : own.filterMap Reply.allocated? =
      (store.plainCourse script).replies.filterMap Reply.allocated? := by
    have unsigned (replies : List Reply) : replies.filterMap Reply.allocated? =
        (replies.map Reply.unsignedZeros).filterMap Reply.allocated? := by
      rw [List.filterMap_map]
      exact List.filterMap_congr fun reply _ => reply.allocated?_unsignedZeros.symm
    rw [unsigned own, same, ← unsigned]
  rw [written]
  change PlainCopy.GivenOut store.lastPending
    ((store.plainCourse script).replies.filterMap Reply.allocated?)
    (store.plainCourse script).copy.lastPending at given
  rw [← allocated, ← mirrors.lastPending] at given
  split <;> exact given

theorem lastPending_le_updateAll (store : Store) (scripts : List Script) :
    store.lastPending ≤ (store.updateAll scripts).lastPending := by
  induction scripts generalizing store with
  | nil => exact Nat.le_refl _
  | cons script scripts induction =>
      have counted := (store.givenOut_update script).1
      have further := induction (store.update script.run).store
      change _ ≤ ((store.update script.run).store.updateAll scripts).lastPending
      omega

/-- A local update is atomic, and its script runs as on a private plain copy of the records: the
commands reply the same, a script that ends well leaves the copy behind, and one that fails leaves
the records and the subscribers alone. Either way the pending ids that it gave out are counted, and
no later script gets one of them again. -/
theorem update_as_plain_copy (store : Store) (script : Script) :
    let written := store.update script.run
    let course := store.plainCourse script
    let given := Script.allocated written.result
    (Script.replies written.result).map Reply.unsignedZeros =
        course.replies.map Reply.unsignedZeros ∧
      (match written.result with
        | .ok _ => course.completed = true ∧ written.store.records.Same course.copy.records
        | .error _ => course.completed = false ∧ written.store.records = store.records ∧
            written.commit.isEmpty ∧ written.commit.due = []) ∧
      written.store.lastPending = store.lastPending + given.length ∧
      given = (List.range' (store.lastPending + 1) given.length).map .pending ∧
      (∀ (others : List Script) (later : Script), given.Disjoint
        (Script.allocated ((written.store.updateAll others).update later.run).result)) := by
  intro written course given
  have counted : PlainCopy.GivenOut store.lastPending given written.store.lastPending :=
    store.givenOut_update script
  have apart (others : List Script) (later : Script) : given.Disjoint
      (Script.allocated ((written.store.updateAll others).update later.run).result) := by
    intro id member again
    obtain ⟨number, rfl, -, upper⟩ := counted.bounds member
    obtain ⟨other, same, lower, -⟩ :=
      ((written.store.updateAll others).givenOut_update later).bounds again
    cases same
    have grown := written.store.lastPending_le_updateAll others
    omega
  obtain ⟨own, last, same, mirrors, base, outcome⟩ := store.update_script_cases script
  refine ⟨?_, ?_, counted.1, counted.2, apart⟩
  · change (Script.replies (store.update script.run).result).map _ = _
    rw [outcome]
    split <;> exact same
  · change match (store.update script.run).result with
      | .ok _ => course.completed = true ∧
          (store.update script.run).store.records.Same course.copy.records
      | .error _ => course.completed = false ∧
          (store.update script.run).store.records = store.records ∧
          (store.update script.run).commit.isEmpty ∧ (store.update script.run).commit.due = []
    rw [outcome]
    by_cases completed : (store.plainCourse script).completed = true
    · rw [if_pos completed]
      refine ⟨completed, Records.same_iff_view.mpr ?_⟩
      exact (view_landed base).trans mirrors.view
    · rw [if_neg completed]
      exact ⟨by simpa using completed, rfl, rfl, rfl⟩

end Store

end RealmDesk
