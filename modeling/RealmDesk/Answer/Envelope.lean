import RealmDesk.Json.Reader

/-!
# Response envelopes

The server answers with an object that holds `data`, `errors` or both, written as an object or as
the list of the two in this order. Other members are read over. Neither of the two may be given
twice, `errors` has to be a list, and each error needs one `message`, or is a list of nothing but
its message.
-/

namespace RealmDesk

/-- What a response of the server holds. -/
structure Envelope where
  /-- The data; `null` counts as none. -/
  data : Option Json
  /-- The messages of the errors. -/
  errors : List String
deriving DecidableEq, Inhabited

namespace Envelope

open Json (Fault Parsed Scan)

/-- The parts of an envelope that were read so far. -/
private structure Draft where
  /-- The data, if it was given. -/
  data : Option (Option Json)
  /-- The messages of the errors, if they were given. -/
  errors : Option (List String)

/-- Nothing read so far. -/
private def Draft.empty : Draft := ⟨none, none⟩

/-- The envelope with what was not given left out. -/
private def Draft.finish (draft : Draft) : Envelope :=
  ⟨draft.data.getD none, draft.errors.getD []⟩

/-- Reads a value by its first character from the characters behind it. -/
private def behindFirst {α : Type} (characters : List Char)
    (read : (first : Char) → (rest : List Char) → Scan α rest) : Scan α characters :=
  Json.byFirst characters fun first rest shorter => (read first rest).map (·.behind shorter)

/-- Reads a value that is a text. -/
private def string (characters : List Char) : Scan String characters :=
  behindFirst characters fun first rest =>
    if first = '"' then (Json.quoted rest).text else .error .wrongShape

/-- Reads over a value. -/
private def skip (characters : List Char) : Scan Unit characters :=
  Json.skipping.value none characters

/-- Takes a message that was not given before. -/
private def giveMessage (known : Option String) (characters : List Char) :
    Scan (Option String) characters := do
  if known.isSome then
    throw .wrongShape
  let message ← string characters
  return message.map some

/-- The message that has to be given. -/
private def needMessage {characters : List Char} (parsed : Parsed (Option String) characters) :
    Scan String characters :=
  match parsed.value with
  | some message => .ok ⟨message, parsed.rest, parsed.shorter⟩
  | none => .error .wrongShape

/-- Reads the message of one error. -/
private def error (characters : List Char) : Scan String characters :=
  behindFirst characters fun first rest => do
    if first = '[' then
      let parsed ← Json.items (rest.length + 1)
        (fun known start _ => giveMessage known start) true none rest (Nat.lt_succ_self _)
      needMessage parsed
    else if first = '\x7b' then
      let parsed ← Json.members (rest.length + 1) Json.Quoted.text
        (fun known name start _ => do
          if name = "message" then
            giveMessage known start
          else
            return (← skip start).map fun _ => known)
        true none rest (Nat.lt_succ_self _)
      needMessage parsed
    else
      throw .wrongShape

/-- Reads the messages of a list of errors. -/
private def errorList (characters : List Char) : Scan (List String) characters :=
  behindFirst characters fun first rest => do
    if first = '[' then
      let parsed ← Json.items (rest.length + 1)
        (fun messages start _ => do
          return (← error start).map fun message => messages ++ [message])
        true [] rest (Nat.lt_succ_self _)
      return parsed
    else
      throw .wrongShape

/-- Takes the data, which was not given before. -/
private def giveData (draft : Draft) (characters : List Char) : Scan Draft characters := do
  if draft.data.isSome then
    throw .wrongShape
  let parsed ← Json.complete.value (some (Json.nestingLimit - 1)) characters
  return parsed.map fun value =>
    { draft with data := some (if value = Json.null then none else some value) }

/-- Takes the errors, which were not given before. -/
private def giveErrors (draft : Draft) (characters : List Char) : Scan Draft characters := do
  if draft.errors.isSome then
    throw .wrongShape
  let parsed ← errorList characters
  return parsed.map fun messages => { draft with errors := some messages }

/-- Reads an envelope. -/
private def scan (characters : List Char) : Scan Draft characters :=
  behindFirst characters fun first rest =>
    if first = '[' then do
      let parsed ← Json.items (rest.length + 1)
        (fun draft start _ =>
          if draft.data.isNone then giveData draft start else giveErrors draft start)
        true Draft.empty rest (Nat.lt_succ_self _)
      return parsed
    else if first = '\x7b' then
      Json.members (rest.length + 1) Json.Quoted.text
        (fun draft name start _ => do
          if name = "data" then
            giveData draft start
          else if name = "errors" then
            giveErrors draft start
          else
            return (← skip start).map fun _ => draft)
        true Draft.empty rest (Nat.lt_succ_self _)
    else
      .error .wrongShape

/-- Reads the text of a response. -/
def parse (body : String) : Except Fault Envelope :=
  (Json.document scan body).map Draft.finish

end Envelope

end RealmDesk
