import RealmDesk.Text.Percent

/-!
# Percent-encoding undone

An encoded text consists of plain characters and percent signs, all of them ASCII, so every other
character can separate encoded texts. Each byte is written in such a way that decoding meets it
again whatever follows, and decoding undoes encoding.
-/

namespace RealmDesk.Text.Percent

/-- The byte of an ASCII character. -/
def toByte (character : Char) : UInt8 :=
  .ofNat character.toNat

@[simp] theorem toNat_ofNat (byte : UInt8) : (Char.ofNat byte.toNat).toNat = byte.toNat := by
  have valid : byte.toNat.isValidChar := .inl (Nat.lt_trans byte.toNat_lt (by decide))
  rw [Char.ofNat, dif_pos valid]
  rfl

@[simp] theorem toByte_ofNat (byte : UInt8) : toByte (Char.ofNat byte.toNat) = byte := by
  rw [toByte, toNat_ofNat, UInt8.ofNat_toNat]

theorem toNat_lt_of_isPlain {byte : UInt8} (plain : isPlain byte = true) : byte.toNat < 0x80 := by
  simp only [isPlain, Bool.or_eq_true, Bool.and_eq_true, decide_eq_true_eq, beq_iff_eq,
    UInt8.le_iff_toNat_le, ← UInt8.toNat_inj] at plain
  simp only [UInt8.reduceToNat] at plain
  omega

theorem hexDigit_of_lt {value : UInt8} (small : value.toNat < 16) :
    hexValue? (toByte (hexDigit value)) = some value ∧
      isPlain (toByte (hexDigit value)) = true ∧
      Char.ofNat (toByte (hexDigit value)).toNat = hexDigit value := by
  have all : ∀ number < 16, let value := UInt8.ofNat number
      hexValue? (toByte (hexDigit value)) = some value ∧
        isPlain (toByte (hexDigit value)) = true ∧
        Char.ofNat (toByte (hexDigit value)).toNat = hexDigit value := by
    decide
  simpa using all value.toNat small

/-- A character that stands in encoded texts. -/
def IsWritten (character : Char) : Prop :=
  character = '%' ∨ ∃ byte, isPlain byte = true ∧ character = Char.ofNat byte.toNat

theorem isWritten_hexDigit {value : UInt8} (small : value.toNat < 16) :
    IsWritten (hexDigit value) :=
  .inr ⟨_, (hexDigit_of_lt small).2.1, (hexDigit_of_lt small).2.2.symm⟩

theorem isWritten_of_mem_encodeByte {byte : UInt8} {character : Char}
    (member : character ∈ encodeByte byte) : IsWritten character := by
  have bound := byte.toNat_lt
  rw [encodeByte] at member
  split at member
  case isTrue plain => exact .inr ⟨byte, plain, List.mem_singleton.mp member⟩
  case isFalse =>
    simp only [List.mem_cons, List.not_mem_nil, or_false] at member
    rcases member with rfl | rfl | rfl
    · exact .inl rfl
    · exact isWritten_hexDigit (by rw [UInt8.toNat_div]; simp; omega)
    · exact isWritten_hexDigit (by rw [UInt8.toNat_mod]; simp; omega)

theorem isWritten_of_mem_encode {text : String} {character : Char}
    (member : character ∈ (encode text).toList) : IsWritten character := by
  rw [encode, String.toList_ofList] at member
  obtain ⟨byte, -, member⟩ := List.mem_flatMap.mp member
  exact isWritten_of_mem_encodeByte member

theorem IsWritten.toNat_lt {character : Char} (written : IsWritten character) :
    character.toNat < 0x80 := by
  rcases written with rfl | ⟨byte, plain, rfl⟩
  · decide
  · rw [toNat_ofNat]
    exact toNat_lt_of_isPlain plain

/-- What is neither plain nor a percent sign is in no encoded text. -/
theorem not_mem_encode {character : Char} (text : String) (noEscape : character ≠ '%')
    (marked : isPlain (toByte character) = false) : character ∉ (encode text).toList := by
  intro member
  rcases isWritten_of_mem_encode member with escape | ⟨byte, plain, rfl⟩
  · exact noEscape escape
  · simp [plain] at marked

theorem encodeByte_ne_nil (byte : UInt8) : encodeByte byte ≠ [] := by
  rw [encodeByte]
  split <;> exact List.cons_ne_nil _ _

theorem bytes_of_ofBytes? {content : List UInt8} {text : String}
    (read : ofBytes? content = some text) : bytes text = content := by
  rw [ofBytes?, String.fromUTF8?] at read
  split at read
  case isTrue =>
    obtain rfl := Option.some.inj read
    rfl
  case isFalse => cases read

theorem bytes_eq_nil {text : String} : bytes text = [] ↔ text = "" := by
  constructor
  · intro none
    have same := ofBytes?_bytes text
    rw [none] at same
    exact Option.some.inj (same.symm.trans (ofBytes?_bytes ""))
  · rintro rfl
    rfl

theorem encode_eq_empty {text : String} : encode text = "" ↔ text = "" := by
  rw [← String.toList_eq_nil_iff, encode, String.toList_ofList, List.flatMap_eq_nil_iff,
    ← bytes_eq_nil]
  constructor
  · intro blank
    exact List.eq_nil_iff_forall_not_mem.mpr fun byte member =>
      encodeByte_ne_nil byte (blank byte member)
  · intro none
    simp [none]

theorem bytes_ofList {characters : List Char} (ascii : ∀ c ∈ characters, c.toNat < 0x80) :
    bytes (String.ofList characters) = characters.map toByte := by
  rw [bytes, String.toByteArray_ofList, List.utf8Encode, List.data_toByteArray]
  induction characters with
  | nil => rfl
  | cons character characters induction =>
      have single : String.utf8EncodeChar character = [toByte character] := by
        have small : character.val.toNat < 0x80 := ascii character List.mem_cons_self
        rw [String.utf8EncodeChar, if_pos (by omega), toByte]
        rfl
      rw [List.flatMap_cons, single, List.map_cons,
        ← induction fun other member => ascii other (List.mem_cons_of_mem _ member)]
      rfl

theorem decodeBytes_cons_of_ne {byte : UInt8} (noEscape : byte ≠ 0x25) (rest : List UInt8) :
    decodeBytes (byte :: rest) = byte :: decodeBytes rest := by
  rw [decodeBytes.eq_def]
  simp only [if_neg noEscape]

/-- A byte that was written is met again, whatever follows. -/
theorem decodeBytes_encodeByte (byte : UInt8) (rest : List UInt8) :
    decodeBytes ((encodeByte byte).map toByte ++ rest) = byte :: decodeBytes rest := by
  rw [encodeByte]
  split
  case isTrue plain =>
    have noEscape : byte ≠ 0x25 := by
      rintro rfl
      cases plain
    rw [List.map_singleton, toByte_ofNat, List.singleton_append, decodeBytes_cons_of_ne noEscape]
  case isFalse =>
    have bound := byte.toNat_lt
    have upper : (byte / 16).toNat < 16 := by
      rw [UInt8.toNat_div]
      simp
      omega
    have lower : (byte % 16).toNat < 16 := by
      rw [UInt8.toNat_mod]
      simp
      omega
    have high := hexDigit_of_lt upper
    have low := hexDigit_of_lt lower
    have whole : byte / 16 * 16 + byte % 16 = byte := by
      rw [← UInt8.toNat_inj]
      simp
      omega
    simp only [List.map_cons, List.map_nil, List.cons_append, List.nil_append]
    rw [decodeBytes, if_pos (by rfl)]
    simp only [high.1, low.1, whole]

theorem decodeBytes_flatMap (content : List UInt8) :
    decodeBytes ((content.flatMap encodeByte).map toByte) = content := by
  induction content with
  | nil => rfl
  | cons byte content induction =>
      rw [List.flatMap_cons, List.map_append, decodeBytes_encodeByte, induction]

/-- Decoding undoes encoding. -/
theorem decode?_encode (text : String) : decode? (encode text) = some text := by
  have ascii : ∀ character ∈ (bytes text).flatMap encodeByte, character.toNat < 0x80 := by
    intro character member
    obtain ⟨byte, -, member⟩ := List.mem_flatMap.mp member
    exact (isWritten_of_mem_encodeByte member).toNat_lt
  rw [decode?, encode, bytes_ofList ascii, decodeBytes_flatMap, ofBytes?_bytes]

theorem decodeBytes_eq_nil {content : List UInt8} : decodeBytes content = [] ↔ content = [] := by
  constructor
  · intro none
    rw [decodeBytes.eq_def] at none
    split at none
    · rfl
    · split at none
      · split at none
        · split at none <;> cases none
        · cases none
      · cases none
  · rintro rfl
    rfl

theorem decode?_eq_some_empty {text : String} : decode? text = some "" ↔ text = "" := by
  constructor
  · intro blank
    have none := bytes_of_ofBytes? blank
    rw [bytes_eq_nil.mpr rfl] at none
    exact bytes_eq_nil.mp (decodeBytes_eq_nil.mp none.symm)
  · rintro rfl
    exact ofBytes?_bytes ""

end RealmDesk.Text.Percent
