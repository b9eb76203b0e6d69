import HotRod.Text.Blank
import HotRod.Text.Percent
set_option autoImplicit false

/-!
# Percent escapes read back

A text is escaped character by character: letters, digits and `-._~` stay as they are, and of any
other character each byte is written as an escape, with digits of either case. The escaped text holds
no delimiter and no blank, and stands for the text that it was made from.
-/

namespace HotRod.Text.Percent

def isPlain (c : Char) : Bool :=
  c.isAlphanum || c == '-' || c == '.' || c == '_' || c == '~'

def hexDigit (capitals : Bool) (value : Nat) : Char :=
  if capitals then (Nat.digitChar value).toUpper else Nat.digitChar value

def writeByte (capitals : Bool) (byte : UInt8) : List Char :=
  ['%', hexDigit capitals (byte.toNat / 16), hexDigit capitals (byte.toNat % 16)]

def writeChar (capitals : Bool) (c : Char) : List Char :=
  if isPlain c then [c] else (String.utf8EncodeChar c).flatMap (writeByte capitals)

/-- Write a text with every character escaped that is not plain. -/
def encode (capitals : Bool) (text : String) : List Char := text.toList.flatMap (writeChar capitals)

variable {capitals : Bool}

theorem hexDigit_spec {value : Nat} (small : value < 16) :
    hexValue? (hexDigit capitals value) = some value ∧ hexDigit capitals value ≠ '+' ∧
      isPlain (hexDigit capitals value) = true := by
  revert value
  cases capitals <;> decide

theorem readByte?_write (byte : UInt8) :
    readByte? (hexDigit capitals (byte.toNat / 16)) (hexDigit capitals (byte.toNat % 16)) =
      some byte := by
  have below := byte.toNat_lt
  obtain ⟨high, unsigned, -⟩ := @hexDigit_spec capitals (byte.toNat / 16) (by omega)
  obtain ⟨low, -, -⟩ := @hexDigit_spec capitals (byte.toNat % 16) (by omega)
  have whole : 16 * (byte.toNat / 16) + byte.toNat % 16 = byte.toNat := Nat.div_add_mod _ _
  rw [readByte?, if_neg unsigned, high, low]
  change some (UInt8.ofNat (16 * (byte.toNat / 16) + byte.toNat % 16)) = some byte
  rw [whole, UInt8.ofNat_toNat]

theorem bytes?_writeByte (byte : UInt8) (rest : List Char) :
    bytes? (writeByte capitals byte ++ rest) = (bytes? rest).map (byte :: ·) := by
  simp only [writeByte, List.cons_append, List.nil_append]
  rw [bytes?, readByte?_write]
  cases bytes? rest <;> rfl

theorem bytes?_writeBytes (bytes : List UInt8) (rest : List Char) :
    bytes? (bytes.flatMap (writeByte capitals) ++ rest) = (bytes? rest).map (bytes ++ ·) := by
  induction bytes with
  | nil => simp
  | cons byte bytes ih =>
    rw [List.flatMap_cons, List.append_assoc, bytes?_writeByte, ih, Option.map_map]
    rfl

theorem bytes?_cons_of_ne {c : Char} (unescaped : c ≠ '%') (rest : List Char) :
    bytes? (c :: rest) = (bytes? rest).map (String.utf8EncodeChar c ++ ·) := by
  rw [bytes?, if_neg unescaped]
  intro high low others start
  exact absurd start unescaped

theorem bytes?_writeChar (c : Char) (rest : List Char) :
    bytes? (writeChar capitals c ++ rest) = (bytes? rest).map (String.utf8EncodeChar c ++ ·) := by
  unfold writeChar
  by_cases plain : isPlain c = true
  · have unescaped : c ≠ '%' := by
      rintro rfl
      contradiction
    rw [if_pos plain, List.singleton_append, bytes?_cons_of_ne unescaped]
  · rw [if_neg plain, bytes?_writeBytes]

theorem bytes?_encode (text : String) :
    bytes? (encode capitals text) = some (text.toList.flatMap String.utf8EncodeChar) := by
  unfold encode
  induction text.toList with
  | nil => rfl
  | cons c rest ih =>
    rw [List.flatMap_cons, bytes?_writeChar, ih]
    rfl

/-- An escaped text is read back. -/
theorem decode?_encode (text : String) : decode? (encode capitals text) = some text := by
  have encoded : (text.toList.flatMap String.utf8EncodeChar).toByteArray = text.toByteArray :=
    String.utf8Encode_toList
  rw [decode?, bytes?_encode]
  simp only [Option.bind_eq_bind, Option.bind_some, encoded]
  exact dif_pos text.isValidUTF8

theorem plain_of_mem_encode {c : Char} {text : String} (member : c ∈ encode capitals text) :
    isPlain c = true ∨ c = '%' := by
  obtain ⟨original, -, written⟩ := List.mem_flatMap.mp member
  unfold writeChar at written
  by_cases plain : isPlain original = true
  · rw [if_pos plain, List.mem_singleton] at written
    exact .inl (written ▸ plain)
  · rw [if_neg plain] at written
    obtain ⟨byte, -, escaped⟩ := List.mem_flatMap.mp written
    have below := byte.toNat_lt
    obtain ⟨-, -, high⟩ := @hexDigit_spec capitals (byte.toNat / 16) (by omega)
    obtain ⟨-, -, low⟩ := @hexDigit_spec capitals (byte.toNat % 16) (by omega)
    simp only [writeByte, List.mem_cons, List.not_mem_nil, or_false] at escaped
    rcases escaped with rfl | rfl | rfl
    · exact .inr rfl
    · exact .inl high
    · exact .inl low

/-- No delimiter is left in an escaped text. -/
theorem not_mem_encode {c : Char} {text : String} (delimiter : isPlain c = false)
    (unescaped : c ≠ '%') : c ∉ encode capitals text := by
  intro member
  rcases plain_of_mem_encode member with plain | escape
  · rw [delimiter] at plain
    contradiction
  · exact unescaped escape

theorem isBlank_of_isPlain {c : Char} (plain : isPlain c = true) : isBlank c = false := by
  simp only [isPlain, Bool.or_eq_true, beq_iff_eq] at plain
  rcases plain with (((letter | rfl) | rfl) | rfl) | rfl
  · exact isBlank_of_isAlphanum letter
  all_goals decide

theorem isBlank_of_mem_encode {c : Char} {text : String} (member : c ∈ encode capitals text) :
    isBlank c = false := by
  rcases plain_of_mem_encode member with plain | rfl
  · exact isBlank_of_isPlain plain
  · decide

end HotRod.Text.Percent
