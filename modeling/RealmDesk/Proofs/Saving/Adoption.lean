import RealmDesk.Proofs.Record.Slots
import RealmDesk.Proofs.Store.Overlay

/-!
# Effects of answers

An answer that is accepted does at most two things to the records. A pending id leaves its record,
and its slot in the list of the realm, to an id of the server; then the records of the answer are
laid over the others. Two such effects commute if the pending ids are different, the layers agree,
and neither layer says what the blocks of the other one's realm are.
-/

namespace RealmDesk

/-- A pending block that got an id of the server, and the realm in which it was created. -/
structure Adoption where
  pending : Nat
  saved : String
  realm : String

namespace Adoption

/-- The id of the server takes the slot of the pending one. -/
def change (adoption : Adoption) (blocks : List RecordId) : List RecordId :=
  blocks.replace (.pending adoption.pending) (.persisted adoption.saved)

theorem change_comm {first second : Adoption} (different : first.pending ≠ second.pending) :
    second.change ∘ first.change = first.change ∘ second.change := by
  have apart : RecordId.pending first.pending ≠ .pending second.pending := by
    simpa using different
  have unlike (id : String) (number : Nat) : RecordId.persisted id ≠ .pending number := nofun
  funext blocks
  exact replace_comm apart (unlike _ _) (unlike _ _) blocks

end Adoption

namespace View

variable {view layer : View}

/-- The view after an adoption. -/
def rename (view : View) (adoption : Adoption) : View :=
  (view.reorder (.persisted adoption.realm) adoption.change).delete (.pending adoption.pending)

theorem isSome_rename (view : View) (adoption : Adoption) (id : String) :
    (view.rename adoption (.persisted id)).isSome = (view (.persisted id)).isSome := by
  have apart : RecordId.persisted id ≠ .pending adoption.pending := nofun
  rw [rename, delete_of_ne _ apart, isSome_reorder]

theorem rename_comm (view : View) {first second : Adoption}
    (different : first.pending ≠ second.pending) :
    (view.rename first).rename second = (view.rename second).rename first := by
  have apart (adoption other : Adoption) :
      RecordId.persisted adoption.realm ≠ .pending other.pending := nofun
  have commute (_ : RecordId.persisted first.realm = .persisted second.realm) :=
    Adoption.change_comm different
  simp only [rename]
  rw [reorder_delete _ (apart second first), delete_comm, reorder_comm view commute,
    ← reorder_delete _ (apart first second)]

/-- The layer has saved records only. -/
def Saved (layer : View) : Prop :=
  ∀ number, layer (.pending number) = none

/-- The layer does not say what the blocks of a record are. -/
def Omits (layer : View) (id : RecordId) : Prop :=
  ∀ incoming, layer id = some incoming → incoming.get? Field.blocks = none

theorem overlay_rename {adoption : Adoption} (saved : layer.Saved)
    (omits : layer.Omits (.persisted adoption.realm))
    (present : (view (.persisted adoption.realm)).isSome) :
    (view.rename adoption).overlay layer = (view.overlay layer).rename adoption := by
  rw [rename, rename, overlay_delete _ (saved adoption.pending), overlay_reorder present omits]

theorem adopt_eq_overlay_rename (view : View) (adoption : Adoption) {snapshot : Snapshot}
    (distinct : snapshot.entries.Pairwise fun left right => left.1 ≠ right.1) :
    view.adopt (.pending adoption.pending) (.persisted adoption.saved)
        (.persisted adoption.realm) snapshot =
      (view.rename adoption).overlay
        (snapshot.withoutField (.persisted adoption.realm) Field.blocks).view := by
  have apart := Snapshot.distinct_withoutField distinct (.persisted adoption.realm) Field.blocks
  have renamed := setBlocks_eq_reorder view (.persisted adoption.realm) adoption.change
  rw [Adoption.change] at renamed
  rw [adopt, renamed, mergeSnapshot_eq_overlay _ apart]
  rfl

end View

/-- What an answer does to the records. -/
structure Effect where
  adoption? : Option Adoption
  layer : View

namespace Effect

variable {effect first second : Effect} {view : View}

def renamed (effect : Effect) (view : View) : View :=
  effect.adoption?.elim view view.rename

/-- The view after the effect. -/
def on (effect : Effect) (view : View) : View :=
  (effect.renamed view).overlay effect.layer

/-- Whatever the effect needs of a view: the realm of its adoption is there. -/
def Placed (effect : Effect) (view : View) : Prop :=
  ∀ adoption ∈ effect.adoption?, (view (.persisted adoption.realm)).isSome

/-- A layer can be laid before or after the adoption of an effect. -/
structure Passes (effect : Effect) (layer : View) : Prop where
  saved : layer.Saved
  omits : ∀ adoption ∈ effect.adoption?, layer.Omits (.persisted adoption.realm)

theorem Placed.overlay (placed : effect.Placed view) (layer : View) :
    effect.Placed (view.overlay layer) :=
  fun adoption adopted => View.isSome_overlay (placed adoption adopted) layer

theorem isSome_renamed (effect : Effect) (view : View) (id : String) :
    (effect.renamed view (.persisted id)).isSome = (view (.persisted id)).isSome := by
  rw [renamed]
  cases effect.adoption? with
  | none => rfl
  | some adoption => exact view.isSome_rename adoption id

theorem isSome_on (effect : Effect) {id : String} (present : (view (.persisted id)).isSome) :
    (effect.on view (.persisted id)).isSome := by
  have kept := (effect.isSome_renamed view id).trans present
  exact View.isSome_overlay kept effect.layer

theorem overlay_renamed {layer : View} (passes : effect.Passes layer)
    (placed : effect.Placed view) :
    (effect.renamed view).overlay layer = effect.renamed (view.overlay layer) := by
  obtain ⟨adoption?, own⟩ := effect
  cases adoption? with
  | none => rfl
  | some adoption =>
      exact View.overlay_rename passes.saved (passes.omits adoption rfl) (placed adoption rfl)

theorem renamed_comm (view : View)
    (different : ∀ adoption ∈ first.adoption?, ∀ other ∈ second.adoption?,
      adoption.pending ≠ other.pending) :
    second.renamed (first.renamed view) = first.renamed (second.renamed view) := by
  obtain ⟨adoption?, layer⟩ := first
  obtain ⟨other?, otherLayer⟩ := second
  cases adoption? with
  | none => rfl
  | some adoption =>
      cases other? with
      | none => rfl
      | some other => exact view.rename_comm (different adoption rfl other rfl)

/-- All layers first, then all adoptions. -/
theorem on_on (placed : first.Placed view) (placedSecond : second.Placed view)
    (passesOwn : first.Passes first.layer) (passesSecondOwn : second.Passes second.layer)
    (passes : first.Passes second.layer) :
    second.on (first.on view) =
      second.renamed (first.renamed ((view.overlay first.layer).overlay second.layer)) := by
  have inner : first.on view = first.renamed (view.overlay first.layer) :=
    overlay_renamed passesOwn placed
  have reached : second.Placed (first.on view) :=
    fun adoption adopted => first.isSome_on (placedSecond adoption adopted)
  have outer : second.on (first.on view) = second.renamed ((first.on view).overlay second.layer) :=
    overlay_renamed passesSecondOwn reached
  rw [outer, inner, overlay_renamed passes (placed.overlay first.layer)]

theorem on_comm (placed : first.Placed view) (placedSecond : second.Placed view)
    (passesOwn : first.Passes first.layer) (passesSecondOwn : second.Passes second.layer)
    (passes : first.Passes second.layer) (passesFirst : second.Passes first.layer)
    (agrees : first.layer.Agrees second.layer)
    (different : ∀ adoption ∈ first.adoption?, ∀ other ∈ second.adoption?,
      adoption.pending ≠ other.pending) :
    second.on (first.on view) = first.on (second.on view) := by
  rw [on_on placed placedSecond passesOwn passesSecondOwn passes,
    on_on placedSecond placed passesSecondOwn passesOwn passesFirst,
    View.overlay_comm view agrees, renamed_comm _ different]

end Effect

end RealmDesk
