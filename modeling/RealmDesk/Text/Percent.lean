/-!
# Percent-encoding

A text is percent-encoded byte by byte of its UTF-8 form: ASCII letters, digits and `-_.~` stand
for themselves and every other byte is written as `%` and two upper-case hexadecimal digits.
Decoding turns each well-formed escape into its byte, keeps a `%` that starts none, and refuses
exactly the texts whose decoded bytes are not UTF-8.
-/

namespace RealmDesk.Text.Percent

/-- The UTF-8 bytes of a text. -/
def bytes (text : String) : List UInt8 :=
  text.toByteArray.data.toList

/-- The text with the given UTF-8 bytes, if they are well formed. -/
def ofBytes? (content : List UInt8) : Option String :=
  String.fromUTF8? ⟨content.toArray⟩

@[simp] theorem ofBytes?_bytes (text : String) : ofBytes? (bytes text) = some text := by
  have whole : (⟨(bytes text).toArray⟩ : ByteArray) = text.toByteArray := by
    simp [bytes]
  unfold ofBytes? String.fromUTF8?
  rw [whole, dif_pos text.isValidUTF8]
  rfl

/-- Whether a byte stands for itself in an encoded text. -/
def isPlain (byte : UInt8) : Bool :=
  (0x30 ≤ byte && byte ≤ 0x39) || (0x41 ≤ byte && byte ≤ 0x5A) ||
    (0x61 ≤ byte && byte ≤ 0x7A) ||
    byte == 0x2D || byte == 0x5F || byte == 0x2E || byte == 0x7E

/-- The upper-case hexadecimal digit of a number below sixteen. -/
def hexDigit (value : UInt8) : Char :=
  Char.ofNat (if value < 10 then 0x30 + value.toNat else 0x37 + value.toNat)

/-- The value of a hexadecimal digit of either case. -/
def hexValue? (byte : UInt8) : Option UInt8 :=
  if 0x30 ≤ byte && byte ≤ 0x39 then some (byte - 0x30)
  else if 0x41 ≤ byte && byte ≤ 0x46 then some (byte - 0x37)
  else if 0x61 ≤ byte && byte ≤ 0x66 then some (byte - 0x57)
  else none

/-- The characters that stand for one byte. -/
def encodeByte (byte : UInt8) : List Char :=
  if isPlain byte then [Char.ofNat byte.toNat]
  else ['%', hexDigit (byte / 16), hexDigit (byte % 16)]

/-- The encoded form of a text. -/
def encode (text : String) : String :=
  String.ofList ((bytes text).flatMap encodeByte)

/-- The bytes an encoded text stands for. -/
def decodeBytes : List UInt8 → List UInt8
  | [] => []
  | byte :: rest =>
      if byte = 0x25 then
        match rest with
        | high :: low :: tail =>
            match hexValue? high, hexValue? low with
            | some upper, some lower => (upper * 16 + lower) :: decodeBytes tail
            | _, _ => byte :: decodeBytes (high :: low :: tail)
        | short => byte :: decodeBytes short
      else
        byte :: decodeBytes rest

/-- The text an encoded text stands for, if its bytes are well formed. -/
def decode? (text : String) : Option String :=
  ofBytes? (decodeBytes (bytes text))

end RealmDesk.Text.Percent
