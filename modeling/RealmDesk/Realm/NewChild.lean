import RealmDesk.Text.Blank

/-!
# New child realms

A new realm needs a name that is not blank and a path segment of at least two characters. The
segment holds no white space, no control character and none of the illegal characters, and it does
not start with a reserved one. Both fields are judged on their own, and of several faults of a
segment the first in this order is named.
-/

namespace RealmDesk

/-- A child realm that may be created. -/
structure NewChild where
  /-- The name, without white space around it. -/
  name : String
  /-- The last part of its path. -/
  segment : String
deriving DecidableEq, Inhabited

namespace NewChild

/-- Why a field is refused. -/
inductive FieldError where
  /-- Nothing was filled in. -/
  | required
  /-- The segment has less than two characters. -/
  | tooShort
  /-- The segment holds white space or a control character. -/
  | whitespace
  /-- The segment holds an illegal character. -/
  | illegalCharacter
  /-- The segment starts with a reserved character. -/
  | reservedStart
deriving DecidableEq, Inhabited

/-- The characters that no segment may hold. -/
def illegalCharacters : String := "<>\"[\\]^\x60\x7b|\x7d#%/?"

/-- The characters that no segment may start with. -/
def reservedCharacters : String := "-+~@_!$&;:.,=*'()"

/-- The text shown beside a refused field. -/
def FieldError.message : FieldError → String
  | .required => "This field is required"
  | .tooShort => "Must be at least 2 characters long"
  | .whitespace => "Must not contain whitespace or control characters"
  | .illegalCharacter => "Must not contain any of: " ++ illegalCharacters
  | .reservedStart => "Must not start with any of: " ++ reservedCharacters

/-- The refused fields of the form for a new child realm. -/
structure FormErrors where
  /-- What is wrong with the name. -/
  name : Option FieldError
  /-- What is wrong with the segment. -/
  segment : Option FieldError
deriving DecidableEq, Inhabited

/-- What is wrong with a name. -/
def nameError? (name : String) : Option FieldError :=
  if Text.isEmptyOrBlank name then some .required else none

/-- What is wrong with a segment, given by its characters. -/
def segmentFault? (characters : List Char) : Option FieldError :=
  if characters.isEmpty then some .required
  else if characters.length < 2 then some .tooShort
  else if characters.any fun character => Text.isBlank character || Text.isControl character then
    some .whitespace
  else if characters.any fun character => illegalCharacters.toList.contains character then
    some .illegalCharacter
  else if characters.head?.any fun character => reservedCharacters.toList.contains character then
    some .reservedStart
  else none

/-- What is wrong with a segment. -/
def segmentError? (segment : String) : Option FieldError :=
  segmentFault? segment.toList

/-- The child realm that a form describes, or what is wrong with the form. -/
def validate (name segment : String) : Except FormErrors NewChild :=
  match nameError? name, segmentError? segment with
  | none, none => .ok ⟨Text.trim name, segment⟩
  | nameError, segmentError => .error ⟨nameError, segmentError⟩

end NewChild

end RealmDesk
