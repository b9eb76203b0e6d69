import HotRod.Proofs.Action
import HotRod.Text.Decimal
set_option autoImplicit false

/-!
# The texts of numbers

    natural = [ "+" ] 1*digit
    integer = natural / "-" 1*digit

Digits are read as the number that they stand for, up to a greatest one and no further. The value read so
far never exceeds that number, so a reader that can take the number does not stop on the way.
-/

namespace HotRod.Text

/-- One digit or more, and the number they stand for. -/
structure Decimal (digits : List Char) (size : Nat) : Prop where
  filled : digits ≠ []
  isDigit : ∀ c ∈ digits, c.isDigit = true
  value : Nat.ofDigitChars 10 digits 0 = size

/-- The texts of a number without a minus sign. -/
inductive NaturalSpelled : List Char → Nat → Prop
  | bare {digits : List Char} {size : Nat} (decimal : Decimal digits size) : NaturalSpelled digits size
  | plus {digits : List Char} {size : Nat} (decimal : Decimal digits size) :
    NaturalSpelled ('+' :: digits) size

/-- The texts of an integer. -/
inductive IntegerSpelled : List Char → Int → Prop
  | natural {text : List Char} {size : Nat} (spelled : NaturalSpelled text size) :
    IntegerSpelled text size
  | minus {digits : List Char} {size : Nat} (decimal : Decimal digits size) :
    IntegerSpelled ('-' :: digits) (-size)

theorem Decimal.head_ne {digits : List Char} {size : Nat} (decimal : Decimal digits size) {c : Char}
    (mark : c.isDigit = false) : digits.head? ≠ some c := by
  intro first
  have digit := decimal.isDigit c (List.mem_of_mem_head? first)
  rw [mark] at digit
  contradiction

theorem naturalSpelled_iff_decimal {digits : List Char} {size : Nat}
    (isDigit : ∀ c ∈ digits, c.isDigit = true) :
    NaturalSpelled digits size ↔ Decimal digits size := by
  constructor
  · intro spelled
    cases spelled with
    | bare decimal => exact decimal
    | plus decimal => exact absurd (isDigit '+' List.mem_cons_self) (by decide)
  · exact NaturalSpelled.bare

theorem le_ofDigitChars (digits : List Char) (start : Nat) :
    start ≤ Nat.ofDigitChars 10 digits start := by
  rw [Nat.ofDigitChars_eq_ofDigitChars_zero]
  have scaled : start ≤ 10 ^ digits.length * start :=
    Nat.le_mul_of_pos_left start (Nat.pow_pos (by decide))
  omega

theorem readDigits_eq_ok_iff {greatest start value : Nat} {beyond : NumberFault}
    {digits : List Char} (within : start ≤ greatest) :
    readDigits greatest beyond start digits = .ok value ↔
      (∀ c ∈ digits, c.isDigit = true) ∧ Nat.ofDigitChars 10 digits start = value ∧
        value ≤ greatest := by
  induction digits generalizing start with
  | nil =>
    rw [readDigits, Except.ok.injEq]
    constructor
    · rintro rfl
      exact ⟨List.forall_mem_nil _, rfl, within⟩
    · exact fun ⟨_, same, _⟩ => same
  | cons c digits ih =>
    rw [List.forall_mem_cons, Nat.ofDigitChars_cons, Nat.mul_comm 10 start, readDigits]
    by_cases digit : c.isDigit = true
    · rw [digitValue?, if_pos digit]
      by_cases reached : start * 10 + (c.toNat - '0'.toNat) ≤ greatest
      · simp only [if_pos reached, digit, true_and]
        exact ih reached
      · have least := le_ofDigitChars digits (start * 10 + (c.toNat - '0'.toNat))
        simp only [if_neg reached]
        exact iff_of_false nofun fun ⟨_, same, bound⟩ => reached (Nat.le_trans least (same ▸ bound))
    · rw [digitValue?, if_neg digit]
      exact iff_of_false nofun fun ⟨decimal, _⟩ => digit decimal.1

theorem readDigits_eq_ok_iff_decimal {greatest value : Nat} {beyond : NumberFault}
    {digits : List Char} (filled : digits ≠ []) :
    readDigits greatest beyond 0 digits = .ok value ↔ Decimal digits value ∧ value ≤ greatest := by
  rw [readDigits_eq_ok_iff (Nat.zero_le _)]
  constructor
  · rintro ⟨decimal, same, bound⟩
    exact ⟨⟨filled, decimal, same⟩, bound⟩
  · rintro ⟨decimal, bound⟩
    exact ⟨decimal.isDigit, decimal.value, bound⟩

theorem NaturalSpelled.head_ne_minus {text : List Char} {size : Nat}
    (spelled : NaturalSpelled text size) : text.head? ≠ some '-' := by
  cases spelled with
  | bare decimal => exact decimal.head_ne (by decide)
  | plus decimal => exact nofun

/-- A number is read from its texts, up to the greatest one, and from no others. -/
theorem readNat_eq_ok_iff {greatest value : Nat} {text : List Char} :
    readNat greatest text = .ok value ↔ NaturalSpelled text value ∧ value ≤ greatest := by
  unfold readNat
  split
  · refine iff_of_false nofun ?_
    rintro ⟨decimal | -, -⟩
    exact decimal.filled rfl
  · refine iff_of_false nofun ?_
    rintro ⟨decimal | decimal, -⟩
    · exact decimal.head_ne (by decide) rfl
    · exact decimal.filled rfl
  · next digits more =>
    have filled : digits ≠ [] := fun none => more (none ▸ rfl)
    rw [readDigits_eq_ok_iff_decimal filled]
    refine and_congr_left fun _ => ⟨.plus, ?_⟩
    rintro (decimal | decimal)
    · exact absurd rfl (decimal.head_ne (by decide))
    · exact decimal
  · next filled _ unsigned =>
    rw [readDigits_eq_ok_iff_decimal filled]
    refine and_congr_left fun _ => ⟨.bare, ?_⟩
    rintro (decimal | decimal)
    · exact decimal
    · exact absurd rfl (unsigned _)

/-- An integer is read from its texts, within the bounds, and from no others. -/
theorem readInt_eq_ok_iff {below greatest : Nat} {value : Int} {text : List Char} :
    readInt below greatest text = .ok value ↔
      IntegerSpelled text value ∧ -(below : Int) ≤ value ∧ value ≤ greatest := by
  unfold readInt
  split
  · refine iff_of_false nofun ?_
    rintro ⟨⟨natural⟩ | decimal, -⟩
    · exact natural.head_ne_minus rfl
    · exact decimal.filled rfl
  · next digits more =>
    have filled : digits ≠ [] := fun none => more (none ▸ rfl)
    rw [map_eq_ok_iff]
    constructor
    · rintro ⟨size, read, rfl⟩
      obtain ⟨decimal, bound⟩ := (readDigits_eq_ok_iff_decimal filled).mp read
      rw [Int.ofNat_eq_natCast]
      exact ⟨.minus decimal, by omega⟩
    · rintro ⟨natural | decimal, bounds⟩
      · exact absurd rfl natural.head_ne_minus
      · exact ⟨_, (readDigits_eq_ok_iff_decimal filled).mpr ⟨decimal, by omega⟩, rfl⟩
  · next unsigned =>
    rw [map_eq_ok_iff]
    constructor
    · rintro ⟨size, read, rfl⟩
      obtain ⟨natural, bound⟩ := readNat_eq_ok_iff.mp read
      rw [Int.ofNat_eq_natCast]
      exact ⟨.natural natural, by omega⟩
    · rintro ⟨natural | decimal, bounds⟩
      · exact ⟨_, readNat_eq_ok_iff.mpr ⟨natural, by omega⟩, rfl⟩
      · exact absurd rfl (unsigned _)

/-! ## Words -/

theorem map_readNat_eq_ok_iff {α : Type} {ofNat : Nat → α} {toNat : α → Nat} {greatest : Nat}
    (toNat_ofNat : ∀ size ≤ greatest, toNat (ofNat size) = size)
    (ofNat_toNat : ∀ word, ofNat (toNat word) = word) (toNat_le : ∀ word, toNat word ≤ greatest)
    {word : α} {text : List Char} :
    (readNat greatest text).map ofNat = .ok word ↔ NaturalSpelled text (toNat word) := by
  rw [map_eq_ok_iff]
  constructor
  · rintro ⟨size, read, rfl⟩
    obtain ⟨spelled, bound⟩ := readNat_eq_ok_iff.mp read
    rwa [toNat_ofNat size bound]
  · intro spelled
    exact ⟨toNat word, readNat_eq_ok_iff.mpr ⟨spelled, toNat_le word⟩, ofNat_toNat word⟩

theorem readUInt16_eq_ok_iff {word : UInt16} {text : List Char} :
    readUInt16 text = .ok word ↔ NaturalSpelled text word.toNat :=
  map_readNat_eq_ok_iff (fun _ bound => UInt16.toNat_ofNat_of_lt' (Nat.lt_succ_of_le bound))
    (fun _ => UInt16.ofNat_toNat) fun word => Nat.le_of_lt_succ word.toNat_lt

theorem readUInt32_eq_ok_iff {word : UInt32} {text : List Char} :
    readUInt32 text = .ok word ↔ NaturalSpelled text word.toNat :=
  map_readNat_eq_ok_iff (fun _ bound => UInt32.toNat_ofNat_of_lt' (Nat.lt_succ_of_le bound))
    (fun _ => UInt32.ofNat_toNat) fun word => Nat.le_of_lt_succ word.toNat_lt

theorem readUInt64_eq_ok_iff {word : UInt64} {text : List Char} :
    readUInt64 text = .ok word ↔ NaturalSpelled text word.toNat :=
  map_readNat_eq_ok_iff (fun _ bound => UInt64.toNat_ofNat_of_lt' (Nat.lt_succ_of_le bound))
    (fun _ => UInt64.ofNat_toNat) fun word => Nat.le_of_lt_succ word.toNat_lt

theorem readInt64_eq_ok_iff {word : Int64} {text : List Char} :
    readInt64 text = .ok word ↔ IntegerSpelled text word.toInt := by
  rw [readInt64, map_eq_ok_iff]
  constructor
  · rintro ⟨value, read, rfl⟩
    obtain ⟨spelled, least, greatest⟩ := readInt_eq_ok_iff.mp read
    rwa [Int64.toInt_ofInt_of_le least (Int.lt_add_one_of_le greatest)]
  · intro spelled
    have least := word.le_toInt
    have greatest : word.toInt ≤ 0x7FFFFFFFFFFFFFFF := Int.le_of_lt_add_one word.toInt_lt
    exact ⟨word.toInt, readInt_eq_ok_iff.mpr ⟨spelled, least, greatest⟩, word.ofInt_toInt⟩

theorem isDigit_of_mem_repr {number : Nat} {c : Char} (member : c ∈ number.repr.toList) :
    c.isDigit = true := by
  rw [Nat.toList_repr] at member
  exact Nat.isDigit_of_mem_toDigits (by decide) (by decide) member

theorem toList_repr_ne_nil (number : Nat) : number.repr.toList ≠ [] := by
  rw [Nat.toList_repr]
  exact Nat.toDigits_ne_nil

theorem length_repr_le_five (number : UInt16) : number.toNat.repr.toList.length ≤ 5 := by
  rw [Nat.toList_repr, Nat.length_toDigits_le_iff (by decide) (by decide)]
  have small := number.toNat_lt
  omega

end HotRod.Text
