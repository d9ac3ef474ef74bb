import RealmDesk.Block.Values
import RealmDesk.Proofs.Record.Zeros

/-!
# What a form reads off a record

A form holds texts, truth values and ids, so the sign of a zero makes no difference to it. A record
carries an input if it has the fields that were sent, where a series or a video may stand as a link:
a form reads the values of the input off such a record, and off every record that keeps its fields.
-/

namespace RealmDesk

namespace FieldValue

@[simp] theorem str?_unsignedZeros (value : FieldValue) :
    value.unsignedZeros.str? = value.str? := by
  rcases value with json | - | -
  · cases json <;> rfl
  · rfl
  · rfl

@[simp] theorem bool?_unsignedZeros (value : FieldValue) :
    value.unsignedZeros.bool? = value.bool? := by
  rcases value with json | - | -
  · cases json <;> rfl
  · rfl
  · rfl

end FieldValue

namespace Record

variable (record : Record) (field : String)

@[simp] theorem str?_unsignedZeros : record.unsignedZeros.str? field = record.str? field := by
  cases named : record.get? field <;> simp [str?, named]

@[simp] theorem bool?_unsignedZeros : record.unsignedZeros.bool? field = record.bool? field := by
  cases named : record.get? field <;> simp [bool?, named]

@[simp] theorem linkedId?_unsignedZeros :
    BlockValues.linkedId? record.unsignedZeros field = BlockValues.linkedId? record field := by
  rw [BlockValues.linkedId?, BlockValues.linkedId?, get?_unsignedZeros]
  rcases record.get? field with - | json | - | -
  · rfl
  · cases json <;> rfl
  · rfl
  · rfl

@[simp] theorem ofRecord_unsignedZeros (kind : BlockKind) :
    BlockValues.ofRecord kind record.unsignedZeros = BlockValues.ofRecord kind record := by
  cases kind <;> simp [BlockValues.ofRecord]

/-- A record has the type and the fields of an earlier one, up to the sign of zeros and except for
the edit mode and the blocks. -/
structure Keeps (record earlier : Record) : Prop where
  /-- The type is the same. -/
  tags : record.typeTag = earlier.typeTag
  /-- The fields are the same. -/
  values : ∀ field value, field ≠ Field.editMode → field ≠ Field.blocks →
    earlier.get? field = some value → ∃ kept, record.get? field = some kept ∧ kept.Same value

theorem refl_keeps : record.Keeps record :=
  ⟨rfl, fun _ value _ _ named => ⟨value, named, rfl⟩⟩

theorem Keeps.trans {first second third : Record} (later : third.Keeps second)
    (earlier : second.Keeps first) : third.Keeps first := by
  refine ⟨later.tags.trans earlier.tags, fun field value notMode notBlocks named => ?_⟩
  obtain ⟨middle, found, same⟩ := earlier.values field value notMode notBlocks named
  obtain ⟨kept, found, again⟩ := later.values field middle notMode notBlocks found
  exact ⟨kept, found, again.trans same⟩

theorem unsignedZeros_keeps : record.Keeps record.unsignedZeros := by
  refine ⟨rfl, fun field value _ _ named => ?_⟩
  rw [get?_unsignedZeros] at named
  obtain ⟨kept, found, rfl⟩ := Option.map_eq_some_iff.mp named
  exact ⟨kept, found, by simp [FieldValue.Same]⟩

theorem erase_keeps : (record.erase Field.blocks).Keeps record :=
  ⟨rfl, fun _ value _ notBlocks named =>
    ⟨value, by rw [get?_erase, if_neg notBlocks.symm, named], rfl⟩⟩

theorem set_keeps (value : FieldValue) : (record.set Field.editMode value).Keeps record :=
  ⟨rfl, fun _ kept notMode _ named =>
    ⟨kept, by rw [get?_set_of_ne record value notMode, named], rfl⟩⟩

end Record

/-- The values with a blank video counted as none. -/
def BlockValues.tidy : BlockValues → BlockValues
  | .video event showTitle => .video (chosen event) showTitle
  | values => values

namespace BlockInput

/-- The values that make the input. -/
def values : BlockInput → BlockValues
  | .title content => .title content
  | .text content => .text content
  | .series id order showTitle showMetadata => .series (some id) order showTitle showMetadata
  | .video event showTitle => .video event showTitle

/-- What values are validated to says the same as they do, except for a blank video. -/
theorem values_of_validate {values : BlockValues} {input : BlockInput}
    (accepted : values.validate = .ok input) : input.values = values.tidy := by
  cases values with
  | title content =>
      rw [BlockValues.validate] at accepted
      split at accepted <;> cases accepted
      rfl
  | text content =>
      cases accepted
      rfl
  | series choice order showTitle showMetadata =>
      rw [BlockValues.validate] at accepted
      split at accepted
      case h_1 => cases accepted
      case h_2 id found =>
        cases accepted
        obtain rfl : choice = some id := (Option.filter_eq_some_iff.mp found).1
        rfl
  | video event showTitle =>
      cases accepted
      rfl

/-- The fields of a block with the input: those that are sent, and `null` for a video that is left
out. -/
def fields (input : BlockInput) : List (String × Json) :=
  match input with
  | .video none _ => (Field.event, .null) :: input.members
  | _ => input.members

variable {input : BlockInput} {key : String} {sent : Json}

/-- None of the fields is the edit mode or a list of blocks, or says which record it is. -/
theorem key_of_mem_fields (listed : (key, sent) ∈ input.fields) :
    key ≠ Field.editMode ∧ key ≠ Field.blocks ∧ key ≠ "id" ∧ key ≠ "__typename" := by
  have keys : key ∈ input.fields.map Prod.fst := List.mem_map_of_mem listed
  have all : ∀ key ∈ input.fields.map Prod.fst,
      key ≠ Field.editMode ∧ key ≠ Field.blocks ∧ key ≠ "id" ∧ key ≠ "__typename" := by
    rcases input with _ | _ | _ | ⟨- | _, _⟩ <;> simp [fields, members] <;> decide
  exact all key keys

theorem eq_of_unsignedZeros (listed : (key, sent) ∈ input.fields) {json : Json}
    (same : json.unsignedZeros = sent.unsignedZeros) : json = sent := by
  have all : ∀ field ∈ input.fields, json.unsignedZeros = field.2.unsignedZeros →
      json = field.2 := by
    rcases input with _ | _ | _ | ⟨- | _, _⟩ <;> cases json <;>
      simp [fields, members, Json.unsignedZeros]
  exact all _ listed same

/-- A value as a record carries it: a series or a video may be linked to. -/
inductive Carried (key : String) : Json → FieldValue → Prop where
  /-- The value itself. -/
  | plain (sent : Json) : Carried key sent (.scalar sent)
  /-- A link to the series or the video with the id. -/
  | linked (id : String) (links : key = Field.series ∨ key = Field.event) :
      Carried key (.str id) (.link (.persisted id))

/-- A record has the type and the fields of a block with the input. -/
structure CarriedBy (input : BlockInput) (record : Record) : Prop where
  /-- The record is a block of the kind. -/
  typed : record.typeTag = input.kind.typeTag
  /-- It has all the fields. -/
  carries : ∀ key sent, (key, sent) ∈ input.fields →
    ∃ value, record.get? key = some value ∧ Carried key sent value

namespace CarriedBy

variable {record : Record}

theorem get?_eq (carried : input.CarriedBy record) (listed : (key, sent) ∈ input.fields)
    (unlinked : key ≠ Field.series ∧ key ≠ Field.event) :
    record.get? key = some (.scalar sent) := by
  obtain ⟨value, named, carries⟩ := carried.carries key sent listed
  cases carries with
  | plain => exact named
  | linked id links => exact absurd links (not_or.mpr unlinked)

theorem linkedId?_eq (carried : input.CarriedBy record) (listed : (key, sent) ∈ input.fields) :
    BlockValues.linkedId? record key = sent.str? := by
  obtain ⟨value, named, carries⟩ := carried.carries key sent listed
  rw [BlockValues.linkedId?, named]
  cases carries <;> rfl

/-- A form reads the values of the input off a record that carries it. -/
theorem ofRecord_eq (carried : input.CarriedBy record) :
    BlockValues.ofRecord input.kind record = input.values := by
  have text {key content : String} (listed : (key, .str content) ∈ input.fields)
      (unlinked : key ≠ Field.series ∧ key ≠ Field.event) : record.str? key = some content := by
    rw [Record.str?, carried.get?_eq listed unlinked]
    rfl
  have flag {key : String} {shown : Bool} (listed : (key, .bool shown) ∈ input.fields)
      (unlinked : key ≠ Field.series ∧ key ≠ Field.event) : record.bool? key = some shown := by
    rw [Record.bool?, carried.get?_eq listed unlinked]
    rfl
  cases input with
  | title content | text content =>
      have content : record.str? Field.content = some content :=
        text List.mem_cons_self (by decide)
      simp only [kind, BlockValues.ofRecord, content, Option.getD_some, values]
  | series id order showTitle showMetadata =>
      have series :=
        carried.linkedId?_eq (show (Field.series, .str id) ∈ _ by simp [fields, members])
      have order : record.str? Field.order = some order.text :=
        text (by simp [fields, members]) (by decide)
      have title : record.bool? Field.showTitle = some showTitle :=
        flag (by simp [fields, members]) (by decide)
      have metadata : record.bool? Field.showMetadata = some showMetadata :=
        flag (by simp [fields, members]) (by decide)
      simp only [kind, BlockValues.ofRecord, series, order, title, metadata, values, Json.str?,
        Option.bind_some, SeriesOrder.ofText?_text, Option.getD_some]
  | video event showTitle =>
      have title : record.bool? Field.showTitle = some showTitle :=
        flag (by cases event <;> simp [fields, members]) (by decide)
      have event : BlockValues.linkedId? record Field.event = event := by
        cases event with
        | none => exact carried.linkedId?_eq (show (Field.event, .null) ∈ _ by simp [fields])
        | some id =>
            exact carried.linkedId?_eq (show (Field.event, .str id) ∈ _ by simp [fields, members])
      simp only [kind, BlockValues.ofRecord, event, title, values, Option.getD_some]

/-- A record that keeps the fields carries the input on. -/
theorem of_keeps (carried : input.CarriedBy record) {later : Record}
    (keeps : later.Keeps record) : input.CarriedBy later := by
  refine ⟨keeps.tags.trans carried.typed, fun key sent listed => ?_⟩
  obtain ⟨value, named, carries⟩ := carried.carries key sent listed
  obtain ⟨notMode, notBlocks, -, -⟩ := key_of_mem_fields listed
  obtain ⟨kept, found, same⟩ := keeps.values key value notMode notBlocks named
  refine ⟨kept, found, ?_⟩
  cases carries with
  | plain =>
      cases kept with
      | scalar json =>
          rw [eq_of_unsignedZeros listed (FieldValue.scalar.inj same)]
          exact .plain sent
      | _ => cases same
  | linked id links =>
      cases kept with
      | link target =>
          cases same
          exact .linked id links
      | _ => cases same

end CarriedBy

end BlockInput

end RealmDesk
