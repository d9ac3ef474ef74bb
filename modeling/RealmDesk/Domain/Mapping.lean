import RealmDesk.Domain.MappingTable
import RealmDesk.Text.Table

/-!
# The characters of names

A name may be typed in more ways than one: in capitals, in wide letters, with soft hyphens. Every
character of a name stands for the characters that count, which may be none, unless no name has it.
-/

namespace RealmDesk.Domain

/-- The characters that no name has. -/
def disallowed : Text.CodeSet := .ofText disallowedTable

/-- The characters that names are read without. -/
def ignored : Text.CodeSet := .ofText ignoredTable

/-- Characters at even steps that stand for one character each. -/
structure Run where
  /-- The code point of the first. -/
  first : Nat
  /-- The code point of the last. -/
  last : Nat
  /-- The step from one to the next. -/
  step : Nat
  /-- What the first stands for. -/
  image : Nat
deriving Inhabited

/-- The runs of characters that stand for one other each. -/
def runs : Array Run :=
  ((Text.rows runTable).filterMap fun row =>
    match row with
    | [first, last, step, image] => some ⟨first, last, step, image⟩
    | _ => none).toArray

/-- What a character of a run stands for. -/
def Run.image? (run : Run) (character : Char) : Option Char :=
  let code := character.toNat
  if run.first ≤ code && code ≤ run.last && (code - run.first) % run.step = 0 then
    some (Char.ofNat (run.image + (code - run.first)))
  else none

/-- Other characters, with what they stand for. -/
def images : Array (Char × List Char) :=
  ((Text.rows imageTable).filterMap fun row =>
    match row with
    | character :: image => some (Char.ofNat character, image.map Char.ofNat)
    | [] => none).toArray

/-- What a character of a name stands for, if a name can have it. -/
def image? (character : Char) : Option (List Char) :=
  if disallowed.contains character then none
  else if ignored.contains character then some []
  else
    match images.find? (·.1 == character) with
    | some (_, image) => some image
    | none => some [(runs.findSome? (·.image? character)).getD character]

/-- The characters that count of a name, if a name can have all that is written. -/
def mapped? (written : List Char) : Option (List Char) :=
  (written.mapM image?).map List.flatten

end RealmDesk.Domain
