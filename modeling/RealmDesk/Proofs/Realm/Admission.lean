import Mathlib.Data.List.Basic
import RealmDesk.Realm.NewChild

/-!
# Which child realms are admitted

A form for a new child realm is accepted exactly if its name is not blank and its segment keeps the
rules. A refused form names, for each of its fields on its own, whether the field is at fault, and
of a segment the first rule that it breaks. The name of an accepted realm has no white space around
it, so the realm is accepted again as it is.
-/

namespace RealmDesk

namespace Text

/-- One text is another without the white space around it. -/
structure IsTrimmed (text trimmed : String) : Prop where
  /-- Nothing but white space is left out, and only around the text. -/
  around : ∃ front back, text.toList = front ++ trimmed.toList ++ back ∧
    ∀ character ∈ front ++ back, isBlank character = true
  /-- It does not start with white space. -/
  first : ∀ character ∈ trimmed.toList.head?, isBlank character = false
  /-- It does not end with white space. -/
  last : ∀ character ∈ trimmed.toList.getLast?, isBlank character = false

variable {characters : List Char}

theorem isBlank_head?_dropWhile (characters : List Char) :
    ∀ character ∈ (characters.dropWhile isBlank).head?, isBlank character = false := by
  intro character start
  rw [Option.mem_def] at start
  simpa [start] using List.head?_dropWhile_not isBlank characters

theorem trimmed_append (characters : List Char) :
    trimmed characters ++ ((characters.dropWhile isBlank).reverse.takeWhile isBlank).reverse =
      characters.dropWhile isBlank := by
  rw [trimmed, ← List.reverse_append, List.takeWhile_append_dropWhile, List.reverse_reverse]

theorem isTrimmed_trim (text : String) : IsTrimmed text (trim text) := by
  have characters : (trim text).toList = trimmed text.toList := by
    rw [trim, String.toList_ofList]
  have behind := trimmed_append text.toList
  constructor
  case around =>
    let rest := text.toList.dropWhile isBlank
    refine ⟨text.toList.takeWhile isBlank, (rest.reverse.takeWhile isBlank).reverse, ?_, ?_⟩
    · rw [characters, List.append_assoc, behind, List.takeWhile_append_dropWhile]
    · intro character member
      rcases List.mem_append.mp member with front | back
      · exact List.all_eq_true.mp List.all_takeWhile character front
      · exact List.all_eq_true.mp List.all_takeWhile character (List.mem_reverse.mp back)
  case first =>
    intro character start
    rw [characters, Option.mem_def] at start
    apply isBlank_head?_dropWhile text.toList character
    rw [← behind, List.head?_append, start]
    rfl
  case last =>
    intro character finish
    rw [characters, trimmed, List.getLast?_reverse] at finish
    exact isBlank_head?_dropWhile _ character finish

theorem trimmed_eq_self
    (first : ∀ character ∈ characters.head?, isBlank character = false)
    (last : ∀ character ∈ characters.getLast?, isBlank character = false) :
    trimmed characters = characters := by
  have keep {front : List Char} (start : ∀ character ∈ front.head?, isBlank character = false) :
      front.dropWhile isBlank = front := by
    cases front with
    | nil => rfl
    | cons head tail => exact List.dropWhile_cons_of_neg (by simp [start head rfl])
  rw [trimmed, keep first, keep, List.reverse_reverse]
  rwa [List.head?_reverse]

@[simp] theorem trim_trim (text : String) : trim (trim text) = trim text := by
  have trimmed := isTrimmed_trim text
  rw [trim, trimmed_eq_self trimmed.first trimmed.last, String.ofList_toList]

end Text

namespace NewChild

/-- A name has a character that is not white space. -/
def IsNamed (name : String) : Prop :=
  ∃ character ∈ name.toList, Text.isBlank character = false

/-- A segment that a path may end with. -/
structure IsSegment (segment : String) : Prop where
  /-- It has two characters or more. -/
  long : 2 ≤ segment.toList.length
  /-- None of them is white space or a control character. -/
  visible : ∀ character ∈ segment.toList,
    Text.isBlank character = false ∧ Text.isControl character = false
  /-- None of them is illegal. -/
  legal : ∀ character ∈ segment.toList, character ∉ illegalCharacters.toList
  /-- The first one is not reserved. -/
  free : ∀ character ∈ segment.toList.head?, character ∉ reservedCharacters.toList

namespace FieldError

/-- The faults of a segment in the order in which they are looked for. -/
def inOrder : List FieldError :=
  [.required, .tooShort, .whitespace, .illegalCharacter, .reservedStart]

/-- A segment, given by its characters, keeps the rule that a fault is about. -/
def Spares : FieldError → List Char → Prop
  | .required, characters => characters ≠ []
  | .tooShort, characters => 2 ≤ characters.length
  | .whitespace, characters => ∀ character ∈ characters,
      Text.isBlank character = false ∧ Text.isControl character = false
  | .illegalCharacter, characters => ∀ character ∈ characters,
      character ∉ illegalCharacters.toList
  | .reservedStart, characters => ∀ character ∈ characters.head?,
      character ∉ reservedCharacters.toList

instance : (fault : FieldError) → (characters : List Char) → Decidable (fault.Spares characters)
  | .required, characters => inferInstanceAs (Decidable (characters ≠ []))
  | .tooShort, characters => inferInstanceAs (Decidable (2 ≤ characters.length))
  | .whitespace, characters => inferInstanceAs (Decidable (∀ character ∈ characters,
      Text.isBlank character = false ∧ Text.isControl character = false))
  | .illegalCharacter, characters => inferInstanceAs (Decidable (∀ character ∈ characters,
      character ∉ illegalCharacters.toList))
  | .reservedStart, characters => inferInstanceAs (Decidable (∀ character ∈ characters.head?,
      character ∉ reservedCharacters.toList))

/-- A segment has a fault and none of those that are looked for before it. -/
def IsFirst (fault : FieldError) (characters : List Char) : Prop :=
  ¬ fault.Spares characters ∧ ∃ earlier later, inOrder = earlier ++ fault :: later ∧
    ∀ other ∈ earlier, other.Spares characters

end FieldError

open FieldError (inOrder Spares)

variable {name segment : String} {characters : List Char} {fault : FieldError}

theorem segmentFault?_eq_find? (characters : List Char) :
    segmentFault? characters = inOrder.find? fun fault => ¬ fault.Spares characters := by
  have empty : characters.isEmpty = true ↔ ¬ Spares .required characters := by
    simp [Spares]
  have short : characters.length < 2 ↔ ¬ Spares .tooShort characters := by
    simp [Spares]
  have white : (characters.any fun character =>
      Text.isBlank character || Text.isControl character) = true ↔
        ¬ Spares .whitespace characters := by
    simp [Spares, or_iff_not_imp_left]
  have illegal : (characters.any fun character =>
      illegalCharacters.toList.contains character) = true ↔
        ¬ Spares .illegalCharacter characters := by
    simp [Spares]
  have reserved : (characters.head?.any fun character =>
      reservedCharacters.toList.contains character) = true ↔
        ¬ Spares .reservedStart characters := by
    simp [Spares, Option.any_eq_true]
  simp only [segmentFault?, inOrder, empty, short, white, illegal, reserved]
  split_ifs <;> simp_all

/-- A segment is judged by the first rule that it breaks. -/
theorem segmentError?_eq_some_iff :
    segmentError? segment = some fault ↔ fault.IsFirst segment.toList := by
  simp [segmentError?, segmentFault?_eq_find?, List.find?_eq_some_iff_append, FieldError.IsFirst]

theorem isSegment_iff :
    IsSegment segment ↔ ∀ rule ∈ inOrder, rule.Spares segment.toList := by
  simp only [inOrder, List.forall_mem_cons, Spares]
  constructor
  · intro good
    have filled : segment.toList ≠ [] := by
      intro empty
      simpa [empty] using good.long
    exact ⟨filled, good.long, good.visible, good.legal, good.free, nofun⟩
  · rintro ⟨-, long, visible, legal, free, -⟩
    exact ⟨long, visible, legal, free⟩

theorem segmentError?_eq_none_iff : segmentError? segment = none ↔ IsSegment segment := by
  simp [segmentError?, segmentFault?_eq_find?, isSegment_iff]

theorem isEmptyOrBlank_iff : Text.isEmptyOrBlank name = true ↔ ¬ IsNamed name := by
  simp [Text.isEmptyOrBlank, IsNamed]

theorem nameError?_eq_some_iff :
    nameError? name = some fault ↔ ¬ IsNamed name ∧ fault = .required := by
  rw [nameError?, ← isEmptyOrBlank_iff]
  split
  · next blank => simp [blank, eq_comm]
  · next filled => simp [filled]

theorem nameError?_eq_none_iff : nameError? name = none ↔ IsNamed name := by
  rw [nameError?]
  split
  · next blank => simpa using isEmptyOrBlank_iff.mp blank
  · next filled => simpa [isEmptyOrBlank_iff] using filled

theorem IsNamed.trim (named : IsNamed name) : IsNamed (Text.trim name) := by
  obtain ⟨character, member, seen⟩ := named
  obtain ⟨front, back, split, blank⟩ := (Text.isTrimmed_trim name).around
  rw [split, List.append_assoc, List.mem_append, List.mem_append] at member
  have notBlank : character ∉ front ++ back := fun around => by simp [blank _ around] at seen
  rw [List.mem_append, not_or] at notBlank
  exact ⟨character, (member.resolve_left notBlank.1).resolve_right notBlank.2, seen⟩

theorem validate_eq_ok_iff {child : NewChild} : validate name segment = .ok child ↔
    IsNamed name ∧ IsSegment segment ∧ child = ⟨Text.trim name, segment⟩ := by
  rw [← nameError?_eq_none_iff, ← segmentError?_eq_none_iff, validate]
  split
  · next named good => simp [named, good, eq_comm]
  · next bad => simpa using fun named good => absurd good (bad named)

theorem eq_of_validate_eq_error {errors : FormErrors}
    (refused : validate name segment = .error errors) :
    errors = ⟨nameError? name, segmentError? segment⟩ := by
  rw [validate] at refused
  split at refused
  · cases refused
  · exact (Except.error.inj refused).symm

/-- A child realm is admitted exactly if its name is not blank and its segment is one that a path
may end with. It has the name without the white space around it and the segment as it was filled in,
and is admitted again as it is. Otherwise each field is judged on its own: a name that is blank is
missing, and of a segment the first fault is named. -/
theorem admits_exactly (name segment : String) :
    ((∃ child, validate name segment = .ok child) ↔ IsNamed name ∧ IsSegment segment) ∧
    (∀ child, validate name segment = .ok child →
      Text.IsTrimmed name child.name ∧ child.segment = segment ∧
        validate child.name child.segment = .ok child) ∧
    ∀ errors, validate name segment = .error errors →
      (∀ fault, errors.name = some fault ↔ ¬ IsNamed name ∧ fault = .required) ∧
      (errors.segment.isSome ↔ ¬ IsSegment segment) ∧
      ∀ fault, errors.segment = some fault ↔ fault.IsFirst segment.toList := by
  refine ⟨?_, fun child admitted => ?_, fun errors refused => ?_⟩
  · simp only [validate_eq_ok_iff, exists_and_left, exists_eq, and_true]
  · obtain ⟨named, good, rfl⟩ := validate_eq_ok_iff.mp admitted
    refine ⟨Text.isTrimmed_trim name, rfl, validate_eq_ok_iff.mpr ⟨named.trim, good, ?_⟩⟩
    rw [Text.trim_trim]
  · obtain rfl := eq_of_validate_eq_error refused
    refine ⟨fun fault => nameError?_eq_some_iff, ?_, fun fault => segmentError?_eq_some_iff⟩
    rw [Option.isSome_iff_ne_none, ne_eq, segmentError?_eq_none_iff]

/-- A blank name does not hide what is wrong with the segment, which holds white space first of
all. -/
example : validate "\u3000" "~/ " = .error ⟨some .required, some .whitespace⟩ := by
  decide +kernel

end NewChild

end RealmDesk
