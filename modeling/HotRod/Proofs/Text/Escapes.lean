import HotRod.Proofs.Text.Percent
import Mathlib.Tactic.IntervalCases
set_option autoImplicit false

/-!
# What escaped texts stand for

A text stands for bytes, character by character: an escape for the byte that its two digits write, any
other character for its UTF-8 form. The reader also takes a plus sign in place of the first digit. But for
texts with such a sign it accepts exactly the well-formed ones.
-/

namespace HotRod.Text.Percent

/-- The digits of base sixteen in either case, each with its value. -/
def HexDigit (c : Char) (value : Nat) : Prop :=
  "0123456789abcdef".toList[value]? = some c ∨ "0123456789ABCDEF".toList[value]? = some c

/-- The bytes that an escaped text stands for, where escapes may or may not be signed. -/
inductive Stands (signed : Bool) : List Char → List UInt8 → Prop
  | nil : Stands signed [] []
  | char {c : Char} {text : List Char} {bytes : List UInt8} (unescaped : c ≠ '%')
    (rest : Stands signed text bytes) : Stands signed (c :: text) (String.utf8EncodeChar c ++ bytes)
  | escape {high low : Char} {byte : UInt8} {text : List Char} {bytes : List UInt8}
    (sixteens : HexDigit high (byte.toNat / 16)) (ones : HexDigit low (byte.toNat % 16))
    (rest : Stands signed text bytes) : Stands signed ('%' :: high :: low :: text) (byte :: bytes)
  | sign {low : Char} {byte : UInt8} {text : List Char} {bytes : List UInt8} (allowed : signed = true)
    (ones : HexDigit low byte.toNat) (rest : Stands signed text bytes) :
    Stands signed ('%' :: '+' :: low :: text) (byte :: bytes)

/-- The text whose UTF-8 form an escaped text stands for. -/
def Means (signed : Bool) (escaped : List Char) (text : String) : Prop :=
  ∃ bytes, Stands signed escaped bytes ∧ bytes.toByteArray = text.toUTF8

theorem HexDigit.lt {c : Char} {value : Nat} (digit : HexDigit c value) : value < 16 := by
  rcases digit with lower | upper
  · exact (List.getElem?_eq_some_iff.mp lower).1
  · exact (List.getElem?_eq_some_iff.mp upper).1

theorem HexDigit.small {c : Char} {value : Nat} (digit : HexDigit c value) : c.toNat < 128 := by
  have bound := digit.lt
  rcases digit with lower | upper
  · interval_cases value <;> cases lower <;> decide
  · interval_cases value <;> cases upper <;> decide

theorem hexValue?_of_hexDigit {c : Char} {value : Nat} (digit : HexDigit c value) :
    hexValue? c = some value := by
  have bound := digit.lt
  rcases digit with lower | upper
  · interval_cases value <;> cases lower <;> decide
  · interval_cases value <;> cases upper <;> decide

theorem hexDigit_of_hexValue? {c : Char} {value : Nat} (read : hexValue? c = some value) :
    HexDigit c value := by
  have decimal (code : Nat) (low : 48 ≤ code) (high : code ≤ 57) :
      HexDigit (Char.ofNat code) (code - 48) := by
    interval_cases code <;> exact .inl rfl
  have lower (code : Nat) (low : 97 ≤ code) (high : code ≤ 102) :
      HexDigit (Char.ofNat code) (code - 97 + 10) := by
    interval_cases code <;> exact .inl rfl
  have upper (code : Nat) (low : 65 ≤ code) (high : code ≤ 70) :
      HexDigit (Char.ofNat code) (code - 65 + 10) := by
    interval_cases code <;> exact .inr rfl
  unfold hexValue? at read
  rw [← c.ofNat_toNat]
  split at read
  · next range =>
    cases read
    exact decimal c.toNat range.1 range.2
  · split at read
    · next range =>
      cases read
      exact lower c.toNat range.1 range.2
    · split at read
      · next range =>
        cases read
        exact upper c.toNat range.1 range.2
      · contradiction

theorem hexValue?_eq_some_iff {c : Char} {value : Nat} :
    hexValue? c = some value ↔ HexDigit c value :=
  ⟨hexDigit_of_hexValue?, hexValue?_of_hexDigit⟩

theorem not_hexDigit_plus {value : Nat} : ¬ HexDigit '+' value := by
  intro digit
  have read := hexValue?_of_hexDigit digit
  contradiction

theorem readByte?_eq_some_iff {high low : Char} {byte : UInt8} :
    readByte? high low = some byte ↔
      HexDigit high (byte.toNat / 16) ∧ HexDigit low (byte.toNat % 16) ∨
        high = '+' ∧ HexDigit low byte.toNat := by
  have parts : readByte? high low = some byte ↔
      ∃ sixteens, (if high = '+' then some 0 else hexValue? high) = some sixteens ∧
        ∃ ones, hexValue? low = some ones ∧ UInt8.ofNat (16 * sixteens + ones) = byte := by
    by_cases plus : high = '+'
    · simp only [readByte?, if_pos plus, Option.bind_eq_bind, Option.bind_some, Option.bind_eq_some_iff,
        Option.pure_def, Option.some.injEq, exists_eq_left']
    · simp only [readByte?, if_neg plus, Option.bind_eq_bind, Option.bind_eq_some_iff, Option.pure_def,
        Option.some.injEq]
  have whole {number : Nat} (small : number < 256) : (UInt8.ofNat number).toNat = number :=
    UInt8.toNat_ofNat_of_lt' small
  rw [parts]
  constructor
  · rintro ⟨sixteens, first, ones, second, rfl⟩
    rw [hexValue?_eq_some_iff] at second
    have small := second.lt
    by_cases plus : high = '+'
    · rw [if_pos plus] at first
      cases first
      refine .inr ⟨plus, ?_⟩
      rwa [Nat.mul_zero, Nat.zero_add, whole (by omega)]
    · rw [if_neg plus, hexValue?_eq_some_iff] at first
      have bound := first.lt
      rw [whole (by omega)]
      have quotient : (16 * sixteens + ones) / 16 = sixteens := by omega
      have remainder : (16 * sixteens + ones) % 16 = ones := by omega
      rw [quotient, remainder]
      exact .inl ⟨first, second⟩
  · rintro (⟨first, second⟩ | ⟨rfl, digit⟩)
    · have other : high ≠ '+' := by
        rintro rfl
        exact not_hexDigit_plus first
      refine ⟨byte.toNat / 16, ?_, byte.toNat % 16, hexValue?_eq_some_iff.mpr second, ?_⟩
      · rw [if_neg other, hexValue?_eq_some_iff]
        exact first
      · rw [Nat.div_add_mod, UInt8.ofNat_toNat]
    · refine ⟨0, if_pos rfl, byte.toNat, hexValue?_eq_some_iff.mpr digit, ?_⟩
      rw [Nat.mul_zero, Nat.zero_add, UInt8.ofNat_toNat]

theorem bytes?_eq_some_iff {text : List Char} {bytes : List UInt8} :
    bytes? text = some bytes ↔ Stands true text bytes := by
  constructor
  · intro read
    fun_induction bytes? text generalizing bytes with
    | case1 =>
      cases read
      exact .nil
    | case2 high low text ih =>
      obtain ⟨byte, escaped, rest⟩ := Option.bind_eq_some_iff.mp read
      obtain ⟨others, later, made⟩ := Option.bind_eq_some_iff.mp rest
      cases made
      rcases readByte?_eq_some_iff.mp escaped with ⟨sixteens, ones⟩ | ⟨rfl, ones⟩
      · exact .escape sixteens ones (ih later)
      · exact .sign rfl ones (ih later)
    | case3 => contradiction
    | case4 c text short unescaped ih =>
      obtain ⟨others, later, rfl⟩ := Option.map_eq_some_iff.mp read
      exact .char unescaped (ih later)
  · intro stands
    induction stands with
    | nil => rfl
    | char unescaped rest ih => rw [bytes?_cons_of_ne unescaped, ih]; rfl
    | escape sixteens ones rest ih =>
      rw [bytes?, readByte?_eq_some_iff.mpr (.inl ⟨sixteens, ones⟩), ih]
      rfl
    | sign allowed ones rest ih =>
      rw [bytes?, readByte?_eq_some_iff.mpr (.inr ⟨rfl, ones⟩), ih]
      rfl

theorem HexDigit.ne_percent {c : Char} {value : Nat} (digit : HexDigit c value) : c ≠ '%' := by
  rintro rfl
  have read := hexValue?_of_hexDigit digit
  contradiction

theorem sign_infix_cons {c : Char} (unescaped : c ≠ '%') {text : List Char} :
    ['%', '+'] <:+: c :: text ↔ ['%', '+'] <:+: text := by
  rw [List.infix_cons_iff, or_iff_right]
  exact fun start => unescaped (List.cons_prefix_cons.mp start).1.symm

theorem sign_infix_escape {high low : Char} {sixteens ones : Nat} (first : HexDigit high sixteens)
    (second : HexDigit low ones) {text : List Char} :
    ['%', '+'] <:+: '%' :: high :: low :: text ↔ ['%', '+'] <:+: text := by
  rw [List.infix_cons_iff, or_iff_right, sign_infix_cons first.ne_percent,
    sign_infix_cons second.ne_percent]
  intro start
  obtain ⟨-, rest⟩ := List.cons_prefix_cons.mp start
  obtain ⟨rfl, -⟩ := List.cons_prefix_cons.mp rest
  exact not_hexDigit_plus first

/-- Signed escapes are found where a percent sign and a plus sign meet, and nowhere else. -/
theorem stands_false_iff {text : List Char} {bytes : List UInt8} :
    Stands false text bytes ↔ Stands true text bytes ∧ ¬ ['%', '+'] <:+: text := by
  constructor
  · intro stands
    induction stands with
    | nil => exact ⟨.nil, by simp⟩
    | char unescaped rest ih =>
      rw [sign_infix_cons unescaped]
      exact ⟨.char unescaped ih.1, ih.2⟩
    | escape sixteens ones rest ih =>
      rw [sign_infix_escape sixteens ones]
      exact ⟨.escape sixteens ones ih.1, ih.2⟩
    | sign allowed ones rest ih => contradiction
  · rintro ⟨stands, unsigned⟩
    induction stands with
    | nil => exact .nil
    | char unescaped rest ih =>
      rw [sign_infix_cons unescaped] at unsigned
      exact .char unescaped (ih unsigned)
    | escape sixteens ones rest ih =>
      rw [sign_infix_escape sixteens ones] at unsigned
      exact .escape sixteens ones (ih unsigned)
    | sign allowed ones rest ih => exact absurd ⟨[], _, rfl⟩ unsigned

theorem fromUTF8?_eq_some_iff {bytes : ByteArray} {text : String} :
    String.fromUTF8? bytes = some text ↔ bytes = text.toUTF8 := by
  unfold String.fromUTF8?
  constructor
  · intro read
    split at read
    · cases read
      rfl
    · contradiction
  · rintro rfl
    exact dif_pos text.isValidUTF8

theorem decode?_eq_some_iff {escaped : List Char} {text : String} :
    decode? escaped = some text ↔ Means true escaped text := by
  unfold decode? Means
  simp only [Option.bind_eq_bind, Option.bind_eq_some_iff, bytes?_eq_some_iff, fromUTF8?_eq_some_iff]

/-- The well-formed texts are those that are read and hold no signed escape. -/
theorem means_false_iff {escaped : List Char} {text : String} :
    Means false escaped text ↔ decode? escaped = some text ∧ ¬ ['%', '+'] <:+: escaped := by
  rw [decode?_eq_some_iff]
  simp only [Means, stands_false_iff]
  constructor
  · rintro ⟨bytes, ⟨stands, unsigned⟩, form⟩
    exact ⟨⟨bytes, stands, form⟩, unsigned⟩
  · rintro ⟨⟨bytes, stands, form⟩, unsigned⟩
    exact ⟨bytes, ⟨stands, unsigned⟩, form⟩

end HotRod.Text.Percent
