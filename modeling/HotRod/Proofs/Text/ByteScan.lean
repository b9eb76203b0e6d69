import HotRod.Proofs.Text.Escapes
set_option autoImplicit false

/-!
# Percent escapes, read by byte index

The loop that decodes a text in place: it walks over the UTF-8 form of the text by index, cuts the two
bytes after a percent sign out if both ends of the cut lie between characters, and reads them as a number.
As it stands, it could miss a byte at its index, or cut out bytes of a longer character. The first never
happens and the second gives no number, so the loop reads what the characters of the text stand for.
-/

namespace HotRod.Text.Percent

/-- The ways in which the loop stops early. -/
inductive ScanFault
  | malformed
  | outOfRange
  deriving DecidableEq, Repr

def isBoundary (bytes : List UInt8) (index : Nat) : Bool :=
  match bytes[index]? with
  | some byte => byte < 0x80 || 0xC0 ≤ byte
  | none => index == bytes.length

/-- The bytes between two indices, unless one of these is not between characters. -/
def slice? (bytes : List UInt8) (start stop : Nat) : Option (List UInt8) :=
  if start ≤ stop ∧ isBoundary bytes start ∧ isBoundary bytes stop then
    some ((bytes.take stop).drop start)
  else none

def readHexDigits? (digits : List UInt8) : Option Nat :=
  digits.foldlM (fun value digit => (hexValue? (Char.ofUInt8 digit)).map (16 * value + ·)) 0

/-- The byte that a text of any length writes in base sixteen, after a plus sign or without one. -/
def readHexByte? (text : List UInt8) : Option UInt8 :=
  if text = [] then none
  else
    let digits := if text.head? = some 0x2B ∧ 1 < text.length then text.tail else text
    (readHexDigits? digits).bind fun value => if value < 256 then some (UInt8.ofNat value) else none

def scan (bytes : List UInt8) (index : Nat) (read : List UInt8) : Except ScanFault (List UInt8) :=
  if index < bytes.length then
    match bytes[index]? with
    | none => .error .outOfRange
    | some byte =>
      if byte = 0x25 then
        match (slice? bytes (index + 1) (index + 3)).bind readHexByte? with
        | none => .error .malformed
        | some escaped => scan bytes (index + 3) (read ++ [escaped])
      else scan bytes (index + 1) (read ++ [byte])
  else .ok read
termination_by bytes.length - index

def decodeBytes (bytes : List UInt8) : Except ScanFault String :=
  (scan bytes 0 []).bind fun read =>
    (String.fromUTF8? read.toByteArray).elim (.error .malformed) .ok

def utf8 (text : List Char) : List UInt8 := text.flatMap String.utf8EncodeChar

/-! ### Characters and their bytes -/

theorem utf8_cons (c : Char) (text : List Char) :
    utf8 (c :: text) = String.utf8EncodeChar c ++ utf8 text :=
  List.flatMap_cons

theorem utf8_percent (text : List Char) : utf8 ('%' :: text) = 0x25 :: utf8 text :=
  utf8_cons '%' text

theorem utf8EncodeChar_small {c : Char} (small : c.toNat < 128) :
    String.utf8EncodeChar c = [UInt8.ofNat c.toNat] :=
  if_pos (Nat.le_of_lt_succ small)

theorem utf8EncodeChar_cases (c : Char) :
    c.toNat < 128 ∧ String.utf8EncodeChar c = [UInt8.ofNat c.toNat] ∨
      ∃ first more, String.utf8EncodeChar c = first :: more ∧ 0xC0 ≤ first ∧
        ∀ byte ∈ more, 0x80 ≤ byte := by
  have leading {number : Nat} (low : 192 ≤ number) (high : number < 256) :
      0xC0 ≤ UInt8.ofNat number := by
    rw [UInt8.le_iff_toNat_le, UInt8.toNat_ofNat_of_lt' high]
    exact low
  have later (number : Nat) : 0x80 ≤ UInt8.ofNat (number % 64 + 128) := by
    rw [UInt8.le_iff_toNat_le, UInt8.toNat_ofNat_of_lt' (by change _ < 256; omega)]
    exact Nat.le_add_left ..
  by_cases one : c.toNat ≤ 127
  · have small : c.toNat < 128 := Nat.lt_succ_of_le one
    exact .inl ⟨small, utf8EncodeChar_small small⟩
  · refine .inr ?_
    unfold String.utf8EncodeChar
    by_cases two : c.toNat ≤ 2047
    · refine ⟨_, _, (if_neg one).trans (if_pos two), leading (by omega) (by omega), ?_⟩
      simp only [List.mem_singleton, forall_eq, later]
    · by_cases three : c.toNat ≤ 65535
      · refine ⟨_, _, (if_neg one).trans ((if_neg two).trans (if_pos three)),
          leading (by omega) (by omega), ?_⟩
        simp only [List.mem_cons, List.not_mem_nil, or_false, forall_eq_or_imp, forall_eq, later, and_self]
      · refine ⟨_, _, (if_neg one).trans ((if_neg two).trans (if_neg three)),
          leading (by omega) (by omega), ?_⟩
        simp only [List.mem_cons, List.not_mem_nil, or_false, forall_eq_or_imp, forall_eq, later, and_self]

theorem toNat_single {c : Char} (small : c.toNat < 128) : (UInt8.ofNat c.toNat).toNat = c.toNat :=
  UInt8.toNat_ofNat_of_lt' (Nat.lt_trans small (by decide))

theorem ofUInt8_ofNat {c : Char} (small : c.toNat < 128) : Char.ofUInt8 (UInt8.ofNat c.toNat) = c := by
  rw [← Char.toNat_inj]
  exact toNat_single small

theorem ne_percent_of_mem {c : Char} (unescaped : c ≠ '%') {byte : UInt8}
    (member : byte ∈ String.utf8EncodeChar c) : byte ≠ 0x25 := by
  rintro rfl
  rcases utf8EncodeChar_cases c with ⟨small, single⟩ | ⟨first, more, several, leading, later⟩
  · rw [single, List.mem_singleton] at member
    have same := ofUInt8_ofNat small
    rw [← member] at same
    exact unescaped same.symm
  · rw [several, List.mem_cons] at member
    rcases member with rfl | member
    · exact absurd leading (by decide)
    · exact absurd (later _ member) (by decide)

/-! ### Escapes -/

theorem isBoundary_cons (byte : UInt8) (bytes : List UInt8) (index : Nat) :
    isBoundary (byte :: bytes) (index + 1) = isBoundary bytes index := by
  simp only [isBoundary, List.getElem?_cons_succ, List.length_cons, Nat.reduceBeqDiff]

theorem slice?_cons (byte : UInt8) (bytes : List UInt8) (start stop : Nat) :
    slice? (byte :: bytes) (start + 1) (stop + 1) = slice? bytes start stop := by
  simp only [slice?, isBoundary_cons, Nat.add_le_add_iff_right, List.take_succ_cons, List.drop_succ_cons]

theorem slice?_append (done back : List UInt8) (start stop : Nat) :
    slice? (done ++ back) (done.length + start) (done.length + stop) = slice? back start stop := by
  induction done with
  | nil => rw [List.nil_append, List.length_nil, Nat.zero_add, Nat.zero_add]
  | cons byte done ih =>
    rw [List.cons_append, List.length_cons, Nat.add_right_comm _ 1 start, Nat.add_right_comm _ 1 stop,
      slice?_cons, ih]

theorem isBoundary_utf8 (text : List Char) : isBoundary (utf8 text) 0 = true := by
  cases text with
  | nil => rfl
  | cons c text =>
    rw [utf8_cons]
    rcases utf8EncodeChar_cases c with ⟨small, single⟩ | ⟨first, more, several, leading, -⟩
    · have below : UInt8.ofNat c.toNat < 0x80 := by
        rw [UInt8.lt_iff_toNat_lt, toNat_single small]
        exact small
      simp [isBoundary, single, below]
    · simp [isBoundary, several, leading]

theorem utf8_eq_cons {text : List Char} {byte : UInt8} {bytes : List UInt8}
    (start : utf8 text = byte :: bytes) (below : byte < 0x80) :
    ∃ rest, text = Char.ofUInt8 byte :: rest ∧ bytes = utf8 rest := by
  cases text with
  | nil => contradiction
  | cons c text =>
    rw [utf8_cons] at start
    rcases utf8EncodeChar_cases c with ⟨small, single⟩ | ⟨first, more, several, leading, -⟩
    · rw [single, List.singleton_append] at start
      cases start
      refine ⟨text, ?_, rfl⟩
      rw [ofUInt8_ofNat small]
    · rw [several, List.cons_append] at start
      cases start
      have threshold : (0x80 : UInt8) ≤ 0xC0 := by decide
      exact absurd below (UInt8.not_lt.mpr (UInt8.le_trans threshold leading))

theorem readHexByte?_pair (high low : UInt8) :
    readHexByte? [high, low] = readByte? (Char.ofUInt8 high) (Char.ofUInt8 low) := by
  have fits {c : Char} {value : Nat} (digit : hexValue? c = some value) : value < 16 :=
    (hexValue?_eq_some_iff.mp digit).lt
  by_cases plus : high = 0x2B
  · subst plus
    have sign : Char.ofUInt8 0x2B = '+' := rfl
    simp only [readHexByte?, readByte?, readHexDigits?, if_pos sign]
    cases ones : hexValue? (Char.ofUInt8 low) with
    | none => simp [ones]
    | some value =>
      have small := fits ones
      have below : value < 256 := by omega
      simp [ones, below]
  · have unsigned : Char.ofUInt8 high ≠ '+' := by
      intro sign
      exact plus (UInt8.toNat_inj.mp (congrArg Char.toNat sign))
    simp only [readHexByte?, readByte?, readHexDigits?, if_neg unsigned]
    cases sixteens : hexValue? (Char.ofUInt8 high) with
    | none => simp [plus, sixteens]
    | some first =>
      cases ones : hexValue? (Char.ofUInt8 low) with
      | none => simp [plus, sixteens, ones]
      | some second =>
        have high := fits sixteens
        have low := fits ones
        have below : 16 * first + second < 256 := by omega
        simp [plus, sixteens, ones, below]

theorem small_of_readByte? {high low : Char} {byte : UInt8} (escaped : readByte? high low = some byte) :
    high.toNat < 128 ∧ low.toNat < 128 := by
  rcases readByte?_eq_some_iff.mp escaped with ⟨sixteens, ones⟩ | ⟨rfl, ones⟩
  · exact ⟨sixteens.small, ones.small⟩
  · exact ⟨by decide, ones.small⟩

theorem utf8_escape {high low : Char} {byte : UInt8} (escaped : readByte? high low = some byte)
    (rest : List Char) :
    utf8 (high :: low :: rest) = UInt8.ofNat high.toNat :: UInt8.ofNat low.toNat :: utf8 rest := by
  obtain ⟨first, second⟩ := small_of_readByte? escaped
  rw [utf8_cons, utf8_cons, utf8EncodeChar_small first, utf8EncodeChar_small second]
  rfl

theorem slice?_eq_some_iff {bytes digits : List UInt8} {start stop : Nat} :
    slice? bytes start stop = some digits ↔
      (start ≤ stop ∧ isBoundary bytes start = true ∧ isBoundary bytes stop = true) ∧
        (bytes.take stop).drop start = digits := by
  rw [slice?, Option.ite_none_right_eq_some, Option.some.injEq]

/-- The cut after a percent sign is read as the two next characters are: both are one byte long if the
cut is a number, and then it ends between characters. -/
theorem escape_eq_some_iff {text : List Char} {byte : UInt8} :
    (slice? (utf8 text) 0 2).bind readHexByte? = some byte ↔
      ∃ high low rest, text = high :: low :: rest ∧ readByte? high low = some byte := by
  constructor
  · intro cut
    obtain ⟨digits, between, number⟩ := Option.bind_eq_some_iff.mp cut
    obtain ⟨⟨-, -, boundary⟩, rfl⟩ := slice?_eq_some_iff.mp between
    rcases form : utf8 text with - | ⟨high, - | ⟨low, bytes⟩⟩
    · rw [form] at boundary
      contradiction
    · rw [form] at boundary
      contradiction
    · rw [form] at number
      change readHexByte? [high, low] = some byte at number
      rw [readHexByte?_pair] at number
      obtain ⟨first, second⟩ := small_of_readByte? number
      obtain ⟨others, rfl, tail⟩ := utf8_eq_cons form first
      obtain ⟨rest, rfl, -⟩ := utf8_eq_cons tail.symm second
      exact ⟨_, _, rest, rfl, number⟩
  · rintro ⟨high, low, rest, rfl, escaped⟩
    obtain ⟨first, second⟩ := small_of_readByte? escaped
    have between : slice? (utf8 (high :: low :: rest)) 0 2 =
        some [UInt8.ofNat high.toNat, UInt8.ofNat low.toNat] := by
      refine slice?_eq_some_iff.mpr ⟨⟨Nat.zero_le 2, isBoundary_utf8 _, ?_⟩, ?_⟩
      · rw [utf8_escape escaped, isBoundary_cons, isBoundary_cons, isBoundary_utf8]
      · rw [utf8_escape escaped]
        rfl
    rw [between, Option.bind_some, readHexByte?_pair, ofUInt8_ofNat first, ofUInt8_ofNat second, escaped]

theorem escape_eq_readByte? (high low : Char) (rest : List Char) :
    (slice? (utf8 (high :: low :: rest)) 0 2).bind readHexByte? = readByte? high low := by
  ext byte
  rw [escape_eq_some_iff]
  constructor
  · rintro ⟨_, _, _, same, escaped⟩
    cases same
    exact escaped
  · exact fun escaped => ⟨high, low, rest, rfl, escaped⟩

theorem escape_eq_none {text : List Char} (short : ∀ high low rest, text ≠ high :: low :: rest) :
    (slice? (utf8 text) 0 2).bind readHexByte? = none := by
  rw [Option.eq_none_iff_forall_ne_some]
  intro byte read
  obtain ⟨high, low, rest, same, -⟩ := escape_eq_some_iff.mp read
  exact short high low rest same

/-! ### The loop -/

theorem scan_end (bytes read : List UInt8) : scan bytes bytes.length read = .ok read := by
  rw [scan, if_neg (Nat.lt_irrefl _)]

theorem scan_unescaped {byte : UInt8} (unescaped : byte ≠ 0x25) (done back read : List UInt8) :
    scan (done ++ byte :: back) done.length read =
      scan (done ++ byte :: back) (done.length + 1) (read ++ [byte]) := by
  rw [scan, if_pos (by simp), List.getElem?_append_right (Nat.le_refl _), Nat.sub_self]
  simp only [List.getElem?_cons_zero, if_neg unescaped]

theorem scan_escape (done back read : List UInt8) :
    scan (done ++ 0x25 :: back) done.length read =
      ((slice? back 0 2).bind readHexByte?).elim (.error .malformed) fun escaped =>
        scan (done ++ 0x25 :: back) (done.length + 3) (read ++ [escaped]) := by
  rw [scan, if_pos (by simp), List.getElem?_append_right (Nat.le_refl _), Nat.sub_self]
  simp only [List.getElem?_cons_zero, if_pos, slice?_append, slice?_cons]
  cases (slice? back 0 2).bind readHexByte? <;> rfl

theorem scan_append {plain : List UInt8} (unescaped : ∀ byte ∈ plain, byte ≠ 0x25)
    (done back read : List UInt8) :
    scan (done ++ plain ++ back) done.length read =
      scan (done ++ plain ++ back) (done ++ plain).length (read ++ plain) := by
  induction plain generalizing done read with
  | nil => rw [List.append_nil, List.append_nil]
  | cons byte plain ih =>
    obtain ⟨first, others⟩ := List.forall_mem_cons.mp unescaped
    have step := ih others (done ++ [byte]) (read ++ [byte])
    simp only [List.append_assoc, List.cons_append, List.nil_append, List.length_append,
      List.length_singleton] at step ⊢
    rw [scan_unescaped first, step]

/-- The loop reads what the characters from its index on stand for. -/
theorem scan_utf8 (text : List Char) (done read : List UInt8) :
    scan (done ++ utf8 text) done.length read =
      (bytes? text).elim (.error .malformed) fun bytes => .ok (read ++ bytes) := by
  fun_induction bytes? text generalizing done read with
  | case1 =>
    rw [utf8, List.flatMap_nil, List.append_nil, scan_end, Option.elim_some, List.append_nil]
  | case2 high low text ih =>
    rw [utf8_percent, scan_escape, escape_eq_readByte?]
    cases escaped : readByte? high low with
    | none => rfl
    | some byte =>
      rw [Option.elim_some, utf8_escape escaped]
      have step := ih (done ++ [0x25, UInt8.ofNat high.toNat, UInt8.ofNat low.toNat]) (read ++ [byte])
      rw [List.append_assoc, List.length_append] at step
      refine step.trans ?_
      cases bytes? text with
      | none => rfl
      | some bytes => exact congrArg Except.ok (List.append_assoc ..)
  | case3 text short =>
    have cut := escape_eq_none fun high low rest same => short high low rest rfl same
    rw [utf8_percent, scan_escape, cut]
    rfl
  | case4 c text short unescaped ih =>
    rw [utf8_cons, ← List.append_assoc, scan_append fun _ => ne_percent_of_mem unescaped, ih]
    cases bytes? text with
    | none => rfl
    | some bytes => exact congrArg Except.ok (List.append_assoc ..)

theorem decodeBytes_utf8 (text : List Char) :
    decodeBytes (utf8 text) = (decode? text).elim (.error .malformed) .ok := by
  have scanned := scan_utf8 text [] []
  rw [List.nil_append, List.length_nil] at scanned
  rw [decodeBytes, decode?, scanned]
  cases bytes? text with
  | none => rfl
  | some bytes => rfl

/-- A text is read if and only if it stands for the UTF-8 form of a text, where an escape may have a plus
sign in place of its first digit. So what is read beyond the well-formed texts are those with such a sign.
The loop over bytes comes to the same end on every text, and never goes beyond its bytes. -/
theorem decode_follows_escapes (escaped : List Char) :
    (∀ text, decode? escaped = some text ↔ Means true escaped text) ∧
    (∀ text, Means false escaped text ↔ decode? escaped = some text ∧ ¬ ['%', '+'] <:+: escaped) ∧
    decodeBytes (utf8 escaped) = (decode? escaped).elim (.error .malformed) .ok :=
  ⟨fun _ => decode?_eq_some_iff, fun _ => means_false_iff, decodeBytes_utf8 escaped⟩

theorem signed_escape_is_read :
    decode? "%+5".toList = some "\x05" ∧ ¬ Means false "%+5".toList "\x05" := by
  constructor
  · exact decode?_eq_some_iff.mpr ⟨[5], .sign rfl (.inl rfl) .nil, rfl⟩
  · intro means
    obtain ⟨-, unsigned⟩ := means_false_iff.mp means
    exact unsigned ⟨[], ['5'], rfl⟩

end HotRod.Text.Percent
