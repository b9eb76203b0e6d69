import HotRod.Proofs.Server.Grammar
set_option autoImplicit false

/-!
# Addresses read back

A host that is read is not empty, and all of its characters are those of a host outside of brackets or
all are those of one in brackets; the number is not zero. An address like that is read back from its
written form, where a host with a colon stands in brackets.
-/

namespace HotRod.ServerAddress

/-- Host and number are ones that an address can be read with. -/
def Readable (address : ServerAddress) : Prop :=
  (∃ text other, parse text = .ok other ∧ other.host = address.host) ∧
    ∃ text other, parse text = .ok other ∧ other.portNumber = address.portNumber

/-- What makes an address one that can be read. -/
structure WellFormed (address : ServerAddress) : Prop where
  nonempty : address.host.toList ≠ []
  chars : (∀ c ∈ address.host.toList, isHostChar c = true) ∨
    ∀ c ∈ address.host.toList, isBracketChar c = true
  numbered : address.portNumber ≠ 0

theorem NumberSpelled.ne_zero {counted : List Char} {number : UInt16}
    (count : NumberSpelled counted number) : number ≠ 0 := by
  cases count with
  | missing => decide
  | given count decimal value positive =>
    rintro rfl
    contradiction

theorem Spelled.wellFormed {text : List Char} {address : ServerAddress}
    (spelled : Spelled text address) : address.WellFormed := by
  obtain ⟨name, count⟩ := spelled
  cases name with
  | plain filled letters =>
    exact ⟨filled, .inl fun c member => isHostChar_iff.mpr (letters c member), count.ne_zero⟩
  | bracketed filled letters =>
    exact ⟨filled, .inr fun c member => isBracketChar_iff.mpr (letters c member), count.ne_zero⟩

theorem wellFormed_of_parse {text : List Char} {address : ServerAddress}
    (found : parse text = .ok address) : address.WellFormed :=
  (parse_eq_ok_iff.mp found).wellFormed

theorem Readable.wellFormed {address : ServerAddress} (readable : address.Readable) :
    address.WellFormed := by
  obtain ⟨⟨text, other, found, host⟩, text', other', found', number⟩ := readable
  have formed := wellFormed_of_parse found
  have numbered := (wellFormed_of_parse found').numbered
  rw [number] at numbered
  exact ⟨host ▸ formed.nonempty, host ▸ formed.chars, numbered⟩

theorem readable_of_read? {text : List Char} {address : ServerAddress}
    (found : read? text = some address) : address.Readable := by
  have parsed : parse text = .ok address := by rw [parse, found]
  exact ⟨⟨text, address, parsed, rfl⟩, text, address, parsed, rfl⟩

theorem isHostChar_of_isAlphanum {c : Char} (letter : c.isAlphanum = true) : isHostChar c = true := by
  simp [isHostChar, letter]

theorem isHostChar_of_isDigit {c : Char} (digit : c.isDigit = true) : isHostChar c = true :=
  isHostChar_of_isAlphanum (Bool.or_eq_true_iff.mpr (.inr digit))

theorem isHostChar_of_isBracketChar {c : Char} (inside : isBracketChar c = true) (plain : c ≠ ':') :
    isHostChar c = true := by
  have kinds : c.isDigit = true ∨ ('a' ≤ c ∧ c ≤ 'f') ∨ ('A' ≤ c ∧ c ≤ 'F') ∨ c = '.' := by
    simpa [isBracketChar, plain, or_assoc] using inside
  have letter : c.isUpper = true ∨ c.isLower = true → isHostChar c = true := by
    intro cased
    apply isHostChar_of_isAlphanum
    exact Bool.or_eq_true_iff.mpr (.inl (Bool.or_eq_true_iff.mpr cased))
  rcases kinds with digit | ⟨low, high⟩ | ⟨low, high⟩ | rfl
  · exact isHostChar_of_isDigit digit
  · have below : c ≤ 'z' := Nat.le_trans high (by decide)
    exact letter (.inr (Bool.and_eq_true_iff.mpr ⟨decide_eq_true low, decide_eq_true below⟩))
  · have below : c ≤ 'Z' := Nat.le_trans high (by decide)
    exact letter (.inl (decide_eq_true ⟨low, below⟩))
  · decide

theorem isBlank_of_isHostChar {c : Char} (plain : isHostChar c = true) : Text.isBlank c = false := by
  simp only [isHostChar, Bool.or_eq_true, beq_iff_eq] at plain
  rcases plain with ((letter | rfl) | rfl) | rfl
  · exact Text.isBlank_of_isAlphanum letter
  all_goals decide

def portText (number : UInt16) : List Char := ':' :: number.toNat.repr.toList

theorem numberSpelled_portText {number : UInt16} (nonzero : number ≠ 0) :
    NumberSpelled (portText number) number := by
  have filled := Text.toList_repr_ne_nil number.toNat
  apply NumberSpelled.given ⟨List.length_pos_iff.mpr filled, Text.length_repr_le_five number⟩
  · exact fun c member => isDigit_iff.mp (Text.isDigit_of_mem_repr member)
  · rw [Nat.toList_repr, Nat.ofDigitChars_ten_toDigits]
  · exact Nat.pos_of_ne_zero fun zero => nonzero (UInt16.toNat_inj.mp zero)

theorem toList_text (address : ServerAddress) :
    address.text.toList =
      if address.host.toList.contains ':' then
        '[' :: address.host.toList ++ ']' :: portText address.portNumber
      else address.host.toList ++ portText address.portNumber := by
  unfold text
  by_cases bracketed : address.host.toList.contains ':' = true
  · rw [if_pos bracketed, if_pos bracketed]
    simp [portText]
  · rw [if_neg bracketed, if_neg bracketed]
    simp [portText]

namespace WellFormed
variable {address : ServerAddress}

theorem isBracketChar_of_contains (formed : address.WellFormed)
    (bracketed : address.host.toList.contains ':' = true) :
    ∀ c ∈ address.host.toList, isBracketChar c = true := by
  rcases formed.chars with outside | inside
  · have colon := outside ':' (List.contains_iff_mem.mp bracketed)
    contradiction
  · exact inside

theorem isHostChar_of_not_contains (formed : address.WellFormed)
    (plain : ¬ address.host.toList.contains ':' = true) :
    ∀ c ∈ address.host.toList, isHostChar c = true := by
  rcases formed.chars with outside | inside
  · exact outside
  · intro c member
    apply isHostChar_of_isBracketChar (inside c member)
    rintro rfl
    exact plain (List.contains_iff_mem.mpr member)

theorem mem_text (formed : address.WellFormed) {c : Char} (member : c ∈ address.text.toList) :
    isHostChar c = true ∨ c = ':' ∨ c = '[' ∨ c = ']' := by
  have digits : c ∈ portText address.portNumber → isHostChar c = true ∨ c = ':' := by
    intro tail
    rcases List.mem_cons.mp tail with rfl | digit
    · exact .inr rfl
    · exact .inl (isHostChar_of_isDigit (Text.isDigit_of_mem_repr digit))
  rw [toList_text] at member
  split at member
  · next bracketed =>
    simp only [List.cons_append, List.mem_cons, List.mem_append] at member
    rcases member with rfl | inside | rfl | tail
    · exact .inr (.inr (.inl rfl))
    · by_cases colon : c = ':'
      · exact .inr (.inl colon)
      · have hex := formed.isBracketChar_of_contains bracketed c inside
        exact .inl (isHostChar_of_isBracketChar hex colon)
    · exact .inr (.inr (.inr rfl))
    · rcases digits tail with plain | colon
      · exact .inl plain
      · exact .inr (.inl colon)
  · next plain =>
    rcases List.mem_append.mp member with inside | tail
    · exact .inl (formed.isHostChar_of_not_contains plain c inside)
    · rcases digits tail with plain | colon
      · exact .inl plain
      · exact .inr (.inl colon)

theorem isBlank_of_mem_text (formed : address.WellFormed) {c : Char}
    (member : c ∈ address.text.toList) : Text.isBlank c = false := by
  rcases formed.mem_text member with plain | rfl | rfl | rfl
  · exact isBlank_of_isHostChar plain
  all_goals decide

/-- The written form of an address follows the grammar. -/
theorem spelled_text (formed : address.WellFormed) : Spelled address.text.toList address := by
  have count := numberSpelled_portText formed.numbered
  rw [toList_text]
  by_cases bracketed : address.host.toList.contains ':' = true
  · have inside := formed.isBracketChar_of_contains bracketed
    have name := HostSpelled.bracketed formed.nonempty fun c member => isBracketChar_iff.mp (inside c member)
    rw [if_pos bracketed]
    simpa using Spelled.intro name count
  · have outside := formed.isHostChar_of_not_contains bracketed
    have name := HostSpelled.plain formed.nonempty fun c member => isHostChar_iff.mp (outside c member)
    rw [if_neg bracketed]
    exact .intro name count

theorem trim_text (formed : address.WellFormed) :
    Text.trim address.text.toList = address.text.toList := by
  apply Text.trim_of_forall
  intro c member
  exact formed.isBlank_of_mem_text member

/-- An address is read back from its written form. -/
theorem read?_text (formed : address.WellFormed) : read? address.text.toList = some address := by
  rw [read?_eq_some_iff, formed.trim_text]
  exact formed.spelled_text

end WellFormed

theorem filter_texts {servers : List ServerAddress}
    (formed : ∀ address ∈ servers, address.WellFormed) :
    (servers.map fun address => address.text.toList).filter
        (fun entry => !(Text.trim entry).isEmpty) =
      servers.map fun address => address.text.toList := by
  rw [List.filter_eq_self]
  intro entry member
  obtain ⟨address, present, rfl⟩ := List.mem_map.mp member
  rw [(formed address present).trim_text, toList_text]
  split <;> simp [portText]

end HotRod.ServerAddress
