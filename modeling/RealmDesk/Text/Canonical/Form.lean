import RealmDesk.Text.Canonical.Table
import RealmDesk.Text.Table

/-!
# The canonical form of a text

Two spellings of a text are the same when they differ only in whether an accented letter is one
character, and in the order of marks that do not touch each other. The canonical form takes every
character apart, sorts the marks after each letter by their classes, and puts together what can be
put together.
-/

namespace RealmDesk.Text.Canonical

/-- A character that stands for others. -/
structure Decomposition where
  /-- The character. -/
  whole : Char
  /-- What it stands for. -/
  parts : List Char
deriving Inhabited

/-- The characters that stand for others. -/
def decompositions : Array Decomposition :=
  ((rows decompositionTable).filterMap fun row =>
    match row with
    | whole :: parts => some ⟨Char.ofNat whole, parts.map Char.ofNat⟩
    | [] => none).toArray

/-- The characters that are never put together from their parts. -/
def excluded : CodeSet := .ofText excludedTable

/-- The characters that are put together from two parts. -/
def compositions : Array Decomposition :=
  decompositions.filter fun entry => entry.parts.length = 2 && !excluded.contains entry.whole

/-- The consonants and vowels of a Hangul syllable, if the character is one. -/
def hangulParts? (character : Char) : Option (List Char) :=
  if 0xAC00 ≤ character.toNat && character.toNat < 0xD7A4 then
    let index := character.toNat - 0xAC00
    let leading := Char.ofNat (0x1100 + index / 588)
    let vowel := Char.ofNat (0x1161 + index % 588 / 28)
    let trailing := index % 28
    some ([leading, vowel] ++ if trailing = 0 then [] else [Char.ofNat (0x11A7 + trailing)])
  else none

/-- What a character directly stands for. -/
def parts (character : Char) : List Char :=
  match hangulParts? character with
  | some letters => letters
  | none =>
      match decompositions.find? (·.whole == character) with
      | some entry => entry.parts
      | none => [character]

/-- The text with every character taken apart. Parts have parts themselves at most three times. -/
def decomposed (text : List Char) : List Char :=
  ((text.flatMap parts).flatMap parts).flatMap parts

/-- The ranges of marks with their classes. -/
def classes : Array (Nat × Nat × Nat) :=
  ((rows classTable).filterMap fun row =>
    match row with
    | [rank, code] => some (rank, code, code)
    | [rank, first, last] => some (rank, first, last)
    | _ => none).toArray

/-- The class of a mark; what is no mark has the class zero. -/
def markClass (character : Char) : Nat :=
  match classes.find? fun (_, first, last) =>
      first ≤ character.toNat && character.toNat ≤ last with
  | some (rank, _) => rank
  | none => 0

/-- Puts a character in front of a text whose marks are sorted. A mark moves behind the marks of
lower classes. -/
def insertMark (character : Char) : List Char → List Char
  | [] => [character]
  | first :: rest =>
      if 0 < markClass first && markClass first < markClass character then
        first :: insertMark character rest
      else character :: first :: rest

/-- The text with the marks after each letter sorted by their classes. -/
def sorted : List Char → List Char
  | [] => []
  | first :: rest => insertMark first (sorted rest)

/-- The Hangul syllable of a consonant and a vowel, or of an open syllable and a consonant. -/
def hangulWhole? (first second : Char) : Option Char :=
  let start := first.toNat
  let next := second.toNat
  if 0x1100 ≤ start && start < 0x1113 && 0x1161 ≤ next && next < 0x1176 then
    some (Char.ofNat (0xAC00 + ((start - 0x1100) * 21 + (next - 0x1161)) * 28))
  else if 0xAC00 ≤ start && start < 0xD7A4 && (start - 0xAC00) % 28 = 0 &&
      0x11A7 < next && next < 0x11C3 then
    some (Char.ofNat (start + (next - 0x11A7)))
  else none

/-- The character that stands for two others. -/
def whole? (first second : Char) : Option Char :=
  (hangulWhole? first second).or
    ((compositions.find? (·.parts == [first, second])).map (·.whole))

/-- Puts a text together behind a letter and marks that stay apart from it, the last mark first. A
character joins the letter unless a mark of the same or a higher class stands between them. -/
def composeAfter (letter : Char) : List Char → List Char → List Char
  | marks, [] => letter :: marks.reverse
  | marks, first :: rest =>
      let isNear := match marks with
        | [] => true
        | mark :: _ => markClass mark < markClass first
      match if isNear then whole? letter first else none with
      | some whole => composeAfter whole marks rest
      | none =>
          if markClass first = 0 then letter :: marks.reverse ++ composeAfter first [] rest
          else composeAfter letter (first :: marks) rest

/-- Puts a text together whose characters are taken apart and whose marks are sorted. -/
def composed : List Char → List Char
  | [] => []
  | first :: rest =>
      if markClass first = 0 then composeAfter first [] rest else first :: composed rest

end RealmDesk.Text.Canonical

namespace RealmDesk.Text

/-- The canonical form of a text. -/
def canonical (text : List Char) : List Char :=
  Canonical.composed (Canonical.sorted (Canonical.decomposed text))

end RealmDesk.Text
