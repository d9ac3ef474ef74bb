/-!
# Scanning JSON text

The pieces of the grammar that every reader of JSON text shares: blanks, words, quoted texts,
numerals, and the lists and objects whose contents a reader supplies. A scanner gets the characters
still to be read and returns what it read together with the characters after it, which are always
fewer. Of several faults in a text the first one in reading order is reported.
-/

namespace RealmDesk.Json

/-- Why a text is refused. -/
inductive Fault where
  /-- The text ends where more has to follow. -/
  | endsEarly
  /-- A character that may not stand where it stands, a number that is too large, or a value that
  is nested too deeply. -/
  | malformed
  /-- The text is JSON but not of the shape that is asked for. -/
  | wrongShape
deriving DecidableEq, Repr

/-- What a scanner read from the front of a text. -/
structure Parsed (α : Type) (characters : List Char) where
  /-- The value read. -/
  value : α
  /-- The characters after it. -/
  rest : List Char
  /-- At least one character was read. -/
  shorter : rest.length < characters.length

/-- The result of a scanner on a text. -/
abbrev Scan (α : Type) (characters : List Char) := Except Fault (Parsed α characters)

/-- Moves a result to a text that has further characters in front. -/
def Parsed.extend {α : Type} {inner outer : List Char} (parsed : Parsed α inner)
    (within : inner.length ≤ outer.length) : Parsed α outer :=
  ⟨parsed.value, parsed.rest, Nat.lt_of_lt_of_le parsed.shorter within⟩

/-- Moves a result to a longer text that ends with the one it is for. -/
def Parsed.behind {α : Type} {inner outer : List Char} (parsed : Parsed α inner)
    (shorter : inner.length < outer.length) : Parsed α outer :=
  parsed.extend (Nat.le_of_lt shorter)

/-- Changes the value read. -/
def Parsed.map {α β : Type} {characters : List Char} (convert : α → β)
    (parsed : Parsed α characters) : Parsed β characters :=
  ⟨convert parsed.value, parsed.rest, parsed.shorter⟩

/-- Whether a character may stand between two parts of a JSON text. -/
def isSpace (character : Char) : Bool :=
  character == ' ' || character == '\n' || character == '\t' || character == '\r'

/-- The text without the blanks in front of it. -/
def skipSpace (characters : List Char) : List Char :=
  characters.dropWhile isSpace

theorem length_skipSpace_le (characters : List Char) :
    (skipSpace characters).length ≤ characters.length :=
  (List.dropWhile_suffix isSpace).length_le

theorem length_lt_of_skipSpace_eq {characters rest : List Char} {first : Char}
    (found : skipSpace characters = first :: rest) : rest.length < characters.length := by
  have within := length_skipSpace_le characters
  rw [found] at within
  exact within

/-- Passes over the blanks in front of a value and reads it by its first character. -/
def byFirst {α : Type} (characters : List Char)
    (read : (first : Char) → (rest : List Char) → rest.length < characters.length →
      Scan α characters) : Scan α characters :=
  match found : skipSpace characters with
  | [] => .error .endsEarly
  | first :: rest => read first rest (length_lt_of_skipSpace_eq found)

/-- Reads the given characters and nothing else. -/
def word (expected characters : List Char) :
    Except Fault { rest : List Char // rest.length ≤ characters.length } :=
  match expected, characters with
  | [], rest => .ok ⟨rest, Nat.le_refl _⟩
  | _ :: _, [] => .error .endsEarly
  | wanted :: expected, first :: rest =>
      if first = wanted then
        (word expected rest).map fun found => ⟨found.1, Nat.le_succ_of_le found.2⟩
      else .error .malformed

/-- One element of a quoted text. -/
inductive Piece where
  /-- A character, written as itself or by a short escape. -/
  | plain (character : Char)
  /-- A sixteen-bit unit, written by its four hexadecimal digits. -/
  | unit (code : Nat)

/-- The elements of a quoted text, and where it ends. -/
structure Quoted (characters : List Char) where
  /-- The elements up to the closing quote or the first fault. -/
  pieces : List Piece
  /-- The characters after the closing quote, or the fault. -/
  ending : Except Fault { rest : List Char // rest.length < characters.length }

/-- Puts elements in front of a quoted text. -/
private def Quoted.after {inner outer : List Char} (quoted : Quoted inner) (piece : Piece)
    (within : inner.length ≤ outer.length) : Quoted outer :=
  ⟨piece :: quoted.pieces,
    quoted.ending.map fun found => ⟨found.1, Nat.lt_of_lt_of_le found.2 within⟩⟩

/-- The value of a hexadecimal digit. -/
private def hexDigit? (character : Char) : Option Nat :=
  if '0' ≤ character && character ≤ '9' then some (character.toNat - 48)
  else if 'a' ≤ character && character ≤ 'f' then some (character.toNat - 87)
  else if 'A' ≤ character && character ≤ 'F' then some (character.toNat - 55)
  else none

/-- The number that hexadecimal digits write. -/
private def hexNumber? (digits : List Char) : Option Nat :=
  digits.foldl (fun number digit => do return (← number) * 16 + (← hexDigit? digit)) (some 0)

/-- The character that a letter after a backslash stands for. -/
private def shortEscape? : Char → Option Char
  | '"' => some '"'
  | '\\' => some '\\'
  | '/' => some '/'
  | 'b' => some '\x08'
  | 'f' => some '\x0c'
  | 'n' => some '\n'
  | 'r' => some '\r'
  | 't' => some '\t'
  | _ => none

/-- The number of bytes that characters take in a text. -/
private def byteCount (characters : List Char) : Nat :=
  characters.foldl (fun size character => size + character.utf8Size) 0

/-- The fault of a text that breaks off within the digits of an escape: fewer than four bytes are
left of a text that ends early. -/
private def escapeFault (characters : List Char) : Fault :=
  if byteCount (characters.take 4) < 4 then .endsEarly else .malformed

/-- Reads a quoted text whose opening quote is already read. -/
def quoted : (characters : List Char) → Quoted characters
  | [] => ⟨[], .error .endsEarly⟩
  | '"' :: rest => ⟨[], .ok ⟨rest, by simp⟩⟩
  | '\\' :: [] => ⟨[], .error .endsEarly⟩
  | '\\' :: 'u' :: first :: second :: third :: fourth :: rest =>
      match hexNumber? [first, second, third, fourth] with
      | some code => (quoted rest).after (.unit code) (by simp; omega)
      | none => ⟨[], .error (escapeFault [first, second, third, fourth])⟩
  | '\\' :: 'u' :: rest => ⟨[], .error (escapeFault rest)⟩
  | '\\' :: letter :: rest =>
      match shortEscape? letter with
      | some character => (quoted rest).after (.plain character) (by simp; omega)
      | none => ⟨[], .error .malformed⟩
  | character :: rest =>
      if character.toNat < 0x20 then ⟨[], .error .malformed⟩
      else (quoted rest).after (.plain character) (by simp)

/-- The characters that the elements of a quoted text stand for: two units of a surrogate pair
make one character, and any other surrogate is a fault. A unit at the end waits for its partner, so
a fault that ended the text comes first there. -/
def characters? (ending : Option Fault) : List Piece → Except Fault (List Char)
  | [] => ending.elim (.ok []) .error
  | .plain character :: pieces => (character :: ·) <$> characters? ending pieces
  | .unit code :: pieces =>
      if 0xDC00 ≤ code && code ≤ 0xDFFF then .error .malformed
      else if 0xD800 ≤ code && code ≤ 0xDBFF then
        match pieces with
        | [] => .error (ending.getD .malformed)
        | .plain _ :: _ => .error .malformed
        | .unit low :: pieces =>
            if 0xDC00 ≤ low && low ≤ 0xDFFF then
              let paired := 0x10000 + (code - 0xD800) * 0x400 + (low - 0xDC00)
              (Char.ofNat paired :: ·) <$> characters? ending pieces
            else .error .malformed
      else (Char.ofNat code :: ·) <$> characters? ending pieces

/-- The fault that ended a quoted text, if one did. -/
def Quoted.fault? {characters : List Char} (quoted : Quoted characters) : Option Fault :=
  match quoted.ending with
  | .ok _ => none
  | .error fault => some fault

/-- Reads a quoted text as a string. -/
def Quoted.text {characters : List Char} (quoted : Quoted characters) : Scan String characters := do
  let content ← characters? quoted.fault? quoted.pieces
  let ⟨rest, shorter⟩ ← quoted.ending
  return ⟨String.ofList content, rest, shorter⟩

/-- Reads over a quoted text, whatever its units are. -/
def Quoted.skip {characters : List Char} (quoted : Quoted characters) : Scan Unit characters := do
  let ⟨rest, shorter⟩ ← quoted.ending
  return ⟨(), rest, shorter⟩

/-- A number as it is written. -/
structure Numeral where
  /-- Whether a minus sign stands in front. -/
  negative : Bool
  /-- The digits before the point. -/
  whole : List Char
  /-- The digits after the point, if there is one. -/
  fraction : Option (List Char)
  /-- Whether the exponent is negative, and its digits, if there is one. -/
  exponent : Option (Bool × List Char)

/-- The digits at the front of a text, and what follows them. -/
private def digits (characters : List Char) :
    List Char × { rest : List Char // rest.length ≤ characters.length } :=
  (characters.takeWhile Char.isDigit,
    ⟨characters.dropWhile Char.isDigit, (List.dropWhile_suffix Char.isDigit).length_le⟩)

/-- The fault of a text that has no digit where one has to stand. -/
private def noDigit : List Char → Fault
  | [] => .endsEarly
  | _ :: _ => .malformed

/-- Reads the digits after a point, if there is one. -/
private def fraction (characters : List Char) :
    Except Fault (Option (List Char) × { rest : List Char // rest.length ≤ characters.length }) :=
  match characters with
  | '.' :: after =>
      match digits after with
      | ([], rest) => .error (noDigit rest)
      | (found, ⟨rest, within⟩) => .ok (some found, ⟨rest, Nat.le_succ_of_le within⟩)
  | other => .ok (none, ⟨other, Nat.le_refl _⟩)

/-- The sign of an exponent, and what follows it. -/
private def exponentSign (characters : List Char) :
    Bool × { rest : List Char // rest.length ≤ characters.length } :=
  match characters with
  | '+' :: rest => (false, ⟨rest, by simp⟩)
  | '-' :: rest => (true, ⟨rest, by simp⟩)
  | other => (false, ⟨other, Nat.le_refl _⟩)

/-- Reads an exponent, if there is one. -/
private def exponent (characters : List Char) :
    Except Fault
      (Option (Bool × List Char) × { rest : List Char // rest.length ≤ characters.length }) :=
  match characters with
  | [] => .ok (none, ⟨[], Nat.le_refl _⟩)
  | letter :: after =>
      if letter = 'e' || letter = 'E' then
        let (negative, ⟨unsigned, unsigned_within⟩) := exponentSign after
        match digits unsigned with
        | ([], rest) => .error (noDigit rest)
        | (found, ⟨rest, within⟩) => .ok (some (negative, found), ⟨rest, by simp; omega⟩)
      else .ok (none, ⟨letter :: after, Nat.le_refl _⟩)

/-- Reads a number without its sign; a leading zero has to stand alone. -/
private def unsignedNumeral (negative : Bool) (characters : List Char) :
    Scan Numeral characters :=
  match characters with
  | [] => .error .endsEarly
  | first :: after =>
      if first.isDigit then do
        let (found, ⟨rest, within⟩) := digits after
        if first = '0' && !found.isEmpty then
          throw .malformed
        let (fraction, ⟨rest, fraction_within⟩) ← fraction rest
        let (exponent, ⟨rest, exponent_within⟩) ← exponent rest
        return ⟨⟨negative, first :: found, fraction, exponent⟩, rest, by simp; omega⟩
      else .error .malformed

/-- Reads a number. -/
def numeral (characters : List Char) : Scan Numeral characters :=
  match characters with
  | '-' :: rest => (unsignedNumeral true rest).map (·.extend (by simp))
  | other => unsignedNumeral false other

/-! ## Lists and objects -/

/-- What comes next within a list or an object. -/
inductive Turn (characters : List Char) where
  /-- It is closed, with these characters after it. -/
  | closed (rest : List Char) (shorter : rest.length < characters.length)
  /-- An item starts with these characters. -/
  | item (start : List Char) (within : start.length ≤ characters.length)

/-- Finds the closing bracket or the start of the next item: every item but the first has a comma
in front, the closing bracket has none. -/
def turn (bracket : Char) (starts : Char → Bool) (first : Bool) (characters : List Char) :
    Except Fault (Turn characters) :=
  have space_within := length_skipSpace_le characters
  match found : skipSpace characters with
  | [] => .error .endsEarly
  | character :: rest =>
      have shorter : rest.length < characters.length := by
        rw [found] at space_within
        exact space_within
      if character = bracket then .ok (.closed rest shorter)
      else if first then
        if starts character then
          .ok (.item (character :: rest) (by rw [← found]; exact space_within))
        else .error .malformed
      else if character = ',' then
        have rest_within := length_skipSpace_le rest
        match next : skipSpace rest with
        | [] => .error .endsEarly
        | character :: after =>
            if character != bracket && starts character then
              .ok (.item (character :: after) (by rw [← next]; omega))
            else .error .malformed
      else .error .malformed

/-- Reads the items of a list whose opening bracket is already read, folding a state through
them. -/
def items {σ : Type} (bound : Nat)
    (read : σ → (start : List Char) → start.length < bound → Scan σ start)
    (first : Bool) (state : σ) (characters : List Char) (below : characters.length < bound) :
    Scan σ characters := do
  match ← turn ']' (fun _ => true) first characters with
  | .closed rest shorter => return ⟨state, rest, shorter⟩
  | .item start within =>
      let ⟨state, rest, shorter⟩ ← read state start (by omega)
      let tail ← items bound read false state rest (by omega)
      return tail.extend (by omega)
termination_by characters.length

/-- Reads the members of an object whose opening brace is already read, folding a state through
them. -/
def members {σ κ : Type} (bound : Nat)
    (key : {characters : List Char} → Quoted characters → Scan κ characters)
    (read : σ → κ → (start : List Char) → start.length < bound → Scan σ start)
    (first : Bool) (state : σ) (characters : List Char) (below : characters.length < bound) :
    Scan σ characters := do
  match ← turn '\x7d' (· == '"') first characters with
  | .closed rest shorter => return ⟨state, rest, shorter⟩
  | .item [] _ => throw .endsEarly
  | .item (_ :: name) name_within =>
      let ⟨name, rest, name_shorter⟩ ← key (quoted name)
      have space_within := length_skipSpace_le rest
      match colon : skipSpace rest with
      | [] => throw .endsEarly
      | character :: start =>
          if character != ':' then
            throw .malformed
          have start_shorter : start.length < rest.length := by
            rw [colon] at space_within
            exact space_within
          have start_below : start.length < characters.length := by
            simp only [List.length_cons] at name_within
            omega
          let ⟨state, rest, shorter⟩ ← read state name start (by omega)
          let tail ← members bound key read false state rest (by omega)
          return tail.extend (by omega)
termination_by characters.length

end RealmDesk.Json
