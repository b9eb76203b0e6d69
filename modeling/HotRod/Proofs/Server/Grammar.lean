import HotRod.Proofs.Action.Errors
import HotRod.Proofs.Text.Decimal
import HotRod.Proofs.Text.Pieces
import HotRod.Server.Address
set_option autoImplicit false

/-!
# The grammar of server addresses

    list    = piece *( ( ";" / "," ) piece )
    piece   = *blank [ address ] *blank
    address = host [ ":" 1*5digit ]
    host    = 1*( letter / digit / "." / "_" / "-" )
            / "[" 1*( hexdigit / ":" / "." ) "]"

Relations say which texts spell a host, a number, an address and a list. The readers accept exactly those.
What they refuse they refuse with the core of the text, and a list with that of the first piece which is
not blank and spells no address.
-/

namespace HotRod

namespace ServerAddress

def OfHost (c : Char) : Prop :=
  ('A' ≤ c ∧ c ≤ 'Z') ∨ ('a' ≤ c ∧ c ≤ 'z') ∨ ('0' ≤ c ∧ c ≤ '9') ∨ c = '.' ∨ c = '_' ∨ c = '-'

def OfBrackets (c : Char) : Prop :=
  ('0' ≤ c ∧ c ≤ '9') ∨ ('a' ≤ c ∧ c ≤ 'f') ∨ ('A' ≤ c ∧ c ≤ 'F') ∨ c = ':' ∨ c = '.'

/-- A host stands in a text as it is or in brackets. -/
inductive HostSpelled : List Char → List Char → Prop
  | plain {host : List Char} (filled : host ≠ []) (letters : ∀ c ∈ host, OfHost c) :
    HostSpelled host host
  | bracketed {host : List Char} (filled : host ≠ []) (letters : ∀ c ∈ host, OfBrackets c) :
    HostSpelled ('[' :: host ++ [']']) host

/-- The number of an endpoint is left out or stands in decimal digits behind a colon. -/
inductive NumberSpelled : List Char → UInt16 → Prop
  | missing : NumberSpelled [] 11222
  | given {digits : List Char} {number : UInt16} (count : 1 ≤ digits.length ∧ digits.length ≤ 5)
    (decimal : ∀ c ∈ digits, '0' ≤ c ∧ c ≤ '9')
    (value : Nat.ofDigitChars 10 digits 0 = number.toNat) (positive : 1 ≤ number.toNat) :
    NumberSpelled (':' :: digits) number

/-- A text without blanks around it is an address. -/
inductive Spelled : List Char → ServerAddress → Prop
  | intro {named counted : List Char} {address : ServerAddress}
    (name : HostSpelled named address.host.toList)
    (count : NumberSpelled counted address.portNumber) : Spelled (named ++ counted) address

theorem isDigit_iff {c : Char} : c.isDigit = true ↔ '0' ≤ c ∧ c ≤ '9' := by
  simp [Char.isDigit, Char.le_def]

theorem isAlpha_iff {c : Char} : c.isAlpha = true ↔ ('A' ≤ c ∧ c ≤ 'Z') ∨ ('a' ≤ c ∧ c ≤ 'z') := by
  change (decide ('A' ≤ c ∧ c ≤ 'Z') || (decide ('a' ≤ c) && decide (c ≤ 'z'))) = true ↔ _
  simp only [Bool.or_eq_true, Bool.and_eq_true, decide_eq_true_eq]

theorem isHostChar_iff {c : Char} : isHostChar c = true ↔ OfHost c := by
  change ((((c.isAlpha || c.isDigit) || c == '.') || c == '_') || c == '-') = true ↔ _
  simp only [Bool.or_eq_true, isAlpha_iff, isDigit_iff, beq_iff_eq, OfHost, or_assoc]

theorem isBracketChar_iff {c : Char} : isBracketChar c = true ↔ OfBrackets c := by
  simp [isBracketChar, OfBrackets, Char.isDigit, or_assoc, Char.le_def]

/-! ### Hosts -/

theorem HostSpelled.ne_nil {named host : List Char} (name : HostSpelled named host) : named ≠ [] := by
  cases name with
  | plain filled letters => exact filled
  | bracketed filled letters => exact List.cons_ne_nil _ _

theorem hostSpelled_of_readHost? {text host rest : List Char}
    (read : readHost? text = some (host, rest)) :
    ∃ named, text = named ++ rest ∧ HostSpelled named host := by
  unfold readHost? at read
  split at read
  · next inner =>
    split at read
    · next c more after inside outside =>
      cases read
      have whole : inner = c :: more ++ ']' :: rest := by
        rw [← inside, ← outside, List.takeWhile_append_dropWhile]
      refine ⟨'[' :: c :: more ++ [']'], by simp [whole], ?_⟩
      apply HostSpelled.bracketed (List.cons_ne_nil _ _)
      intro d member
      rw [← inside] at member
      exact isBracketChar_iff.mp (List.mem_takeWhile_imp member)
    · contradiction
  · split at read
    · contradiction
    · next c more inside =>
      cases read
      refine ⟨c :: more, by rw [← inside, List.takeWhile_append_dropWhile], ?_⟩
      apply HostSpelled.plain (List.cons_ne_nil _ _)
      intro d member
      rw [← inside] at member
      exact isHostChar_iff.mp (List.mem_takeWhile_imp member)

/-- A host is read up to where it ends, unless what follows could belong to it. -/
theorem readHost?_of_hostSpelled {named host rest : List Char} (name : HostSpelled named host)
    (apart : ∀ c ∈ rest.head?, isHostChar c = false) :
    readHost? (named ++ rest) = some (host, rest) := by
  cases name with
  | @bracketed host filled letters =>
    have inside : ∀ c ∈ host, isBracketChar c = true := fun c member =>
      isBracketChar_iff.mpr (letters c member)
    obtain ⟨c, more, rfl⟩ := List.exists_cons_of_ne_nil filled
    have text : '[' :: (c :: more) ++ [']'] ++ rest = '[' :: (c :: more ++ ']' :: rest) := by simp
    rw [text, readHost?, List.takeWhile_append_of_pos inside, List.dropWhile_append_of_pos inside,
      List.takeWhile_cons_of_neg (by decide), List.dropWhile_cons_of_neg (by decide)]
    simp
  | plain filled letters =>
    have inside : ∀ c ∈ named, isHostChar c = true := fun c member =>
      isHostChar_iff.mpr (letters c member)
    obtain ⟨c, more, rfl⟩ := List.exists_cons_of_ne_nil filled
    have first : c ≠ '[' := by
      rintro rfl
      exact absurd (inside '[' List.mem_cons_self) (by decide)
    have stops : rest.takeWhile isHostChar = [] ∧ rest.dropWhile isHostChar = rest := by
      cases rest with
      | nil => exact ⟨rfl, rfl⟩
      | cons d rest =>
        have other : ¬ isHostChar d = true := ne_true_of_eq_false (apart d rfl)
        exact ⟨List.takeWhile_cons_of_neg other, List.dropWhile_cons_of_neg other⟩
    unfold readHost?
    split
    · next inner start => exact absurd (List.cons.inj start).1 first
    · rw [List.takeWhile_append_of_pos inside, List.dropWhile_append_of_pos inside, stops.1, stops.2]
      simp

/-! ### Numbers -/

theorem NumberSpelled.apart {counted : List Char} {number : UInt16}
    (count : NumberSpelled counted number) : ∀ c ∈ counted.head?, isHostChar c = false := by
  cases count with
  | missing => exact nofun
  | given => rintro c ⟨⟩; decide

theorem readUInt16_of_isDigit_iff {digits : List Char} {number : UInt16} (filled : digits ≠ [])
    (isDigit : ∀ c ∈ digits, c.isDigit = true) :
    Text.readUInt16 digits = .ok number ↔ Nat.ofDigitChars 10 digits 0 = number.toNat := by
  rw [Text.readUInt16_eq_ok_iff, Text.naturalSpelled_iff_decimal isDigit]
  exact ⟨Text.Decimal.value, Text.Decimal.mk filled isDigit⟩

theorem readPortNumber?_eq_some_iff {text : List Char} {number : UInt16} :
    readPortNumber? text = some number ↔ NumberSpelled text number := by
  constructor
  · intro read
    unfold readPortNumber? at read
    split at read
    · cases read
      exact .missing
    · next digits =>
      split at read
      · next short =>
        rw [Bool.and_eq_true, decide_eq_true_eq, List.all_eq_true] at short
        split at read
        · next other given =>
          split at read
          · contradiction
          · next nonzero =>
            cases read
            have filled : digits ≠ [] := by
              rintro rfl
              cases given
            apply NumberSpelled.given ⟨List.length_pos_iff.mpr filled, short.1⟩
            · exact fun c member => isDigit_iff.mp (short.2 c member)
            · exact (readUInt16_of_isDigit_iff filled short.2).mp given
            · exact Nat.pos_of_ne_zero fun zero => nonzero (UInt16.toNat_inj.mp zero)
        · contradiction
      · contradiction
    · contradiction
  · intro count
    cases count with
    | missing => rfl
    | @given digits number count decimal value positive =>
      have filled : digits ≠ [] := List.length_pos_iff.mp count.1
      have digit : ∀ c ∈ digits, c.isDigit = true := fun c member => isDigit_iff.mpr (decimal c member)
      have nonzero : number ≠ 0 := by
        rintro rfl
        contradiction
      have read := (readUInt16_of_isDigit_iff filled digit).mpr value
      have all : digits.all Char.isDigit = true := List.all_eq_true.mpr digit
      simp [readPortNumber?, count.2, all, read, nonzero]

/-! ### Addresses -/

theorem Spelled.ne_nil {text : List Char} {address : ServerAddress} (spelled : Spelled text address) :
    text ≠ [] := by
  obtain ⟨name, count⟩ := spelled
  exact List.append_ne_nil_of_left_ne_nil name.ne_nil _

theorem read?_eq_some_iff {text : List Char} {address : ServerAddress} :
    read? text = some address ↔ Spelled (Text.trim text) address := by
  constructor
  · intro found
    unfold read? at found
    simp only [Option.bind_eq_bind, Option.bind_eq_some_iff, Option.pure_def, Option.some.injEq,
      Prod.exists] at found
    obtain ⟨host, rest, named, number, counted, rfl⟩ := found
    obtain ⟨front, whole, name⟩ := hostSpelled_of_readHost? named
    rw [whole]
    refine .intro ?_ (readPortNumber?_eq_some_iff.mp counted)
    rwa [String.toList_ofList]
  · intro spelled
    unfold read?
    generalize Text.trim text = core at spelled
    obtain ⟨name, count⟩ := spelled
    have named := readHost?_of_hostSpelled name count.apart
    have counted := readPortNumber?_eq_some_iff.mpr count
    simp [named, counted]

theorem parse_eq_ok_iff {text : List Char} {address : ServerAddress} :
    parse text = .ok address ↔ Spelled (Text.trim text) address := by
  rw [← read?_eq_some_iff, parse]
  cases read? text <;> simp

theorem parse_eq_error_iff {text : List Char} {error : ClientError} :
    parse text = .error error ↔ (∀ address, ¬ Spelled (Text.trim text) address) ∧
      error = .invalidServerAddress (.ofList (Text.trim text)) := by
  simp only [← read?_eq_some_iff, ← Option.eq_none_iff_forall_ne_some, parse]
  cases read? text <;> simp [eq_comm]

end ServerAddress

/-! ### Lists -/

/-- Each piece that is not blank is an address with blanks around it. -/
inductive ListSpelled : List (List Char) → List ServerAddress → Prop
  | nil : ListSpelled [] []
  | blank {piece : List Char} {pieces : List (List Char)} {servers : List ServerAddress}
    (empty : ∀ c ∈ piece, Text.isBlank c = true) (others : ListSpelled pieces servers) :
    ListSpelled (piece :: pieces) servers
  | address {piece core : List Char} {pieces : List (List Char)} {address : ServerAddress}
    {servers : List ServerAddress} (trimmed : Text.Trimmed piece core)
    (spelled : ServerAddress.Spelled core address) (others : ListSpelled pieces servers) :
    ListSpelled (piece :: pieces) (address :: servers)

namespace ListSpelled
variable {piece : List Char} {pieces : List (List Char)} {servers : List ServerAddress}

theorem cons_iff_of_blank (blank : Text.trim piece = []) :
    ListSpelled (piece :: pieces) servers ↔ ListSpelled pieces servers := by
  constructor
  · intro listed
    cases listed with
    | blank empty others => exact others
    | address trimmed spelled others => exact absurd (trimmed.trim_eq.symm.trans blank) spelled.ne_nil
  · exact .blank (Text.trim_eq_nil_iff.mp blank)

theorem cons_iff (filled : Text.trim piece ≠ []) :
    ListSpelled (piece :: pieces) servers ↔
      ∃ address others, ServerAddress.Spelled (Text.trim piece) address ∧ ListSpelled pieces others ∧
        servers = address :: others := by
  constructor
  · intro listed
    cases listed with
    | blank empty others => exact absurd (Text.trim_eq_nil_iff.mpr empty) filled
    | address trimmed spelled others =>
      rw [← trimmed.trim_eq] at spelled
      exact ⟨_, _, spelled, others, rfl⟩
  · rintro ⟨address, others, spelled, listed, rfl⟩
    exact .address (Text.trimmed_trim piece) spelled listed

end ListSpelled

def filledPieces (pieces : List (List Char)) : List (List Char) :=
  pieces.filter fun entry => !(Text.trim entry).isEmpty

theorem filledPieces_cons_of_blank {piece : List Char} (blank : Text.trim piece = [])
    (pieces : List (List Char)) : filledPieces (piece :: pieces) = filledPieces pieces :=
  List.filter_cons_of_neg (by simp [blank])

theorem filledPieces_cons {piece : List Char} (filled : Text.trim piece ≠ [])
    (pieces : List (List Char)) :
    filledPieces (piece :: pieces) = piece :: filledPieces pieces :=
  List.filter_cons_of_pos (by simp [filled])

section
variable {ε : Type} {read : List Char → Except ε ServerAddress}

theorem mapM_filledPieces_eq_ok_iff
    (reads : ∀ piece address, read piece = .ok address ↔
      ServerAddress.Spelled (Text.trim piece) address)
    {pieces : List (List Char)} {servers : List ServerAddress} :
    (filledPieces pieces).mapM read = .ok servers ↔ ListSpelled pieces servers := by
  induction pieces generalizing servers with
  | nil =>
    constructor
    · rintro ⟨⟩
      exact .nil
    · rintro ⟨⟩
      rfl
  | cons piece pieces ih =>
    by_cases blank : Text.trim piece = []
    · rw [filledPieces_cons_of_blank blank, ih, ListSpelled.cons_iff_of_blank blank]
    · rw [filledPieces_cons blank, List.mapM_cons, bind_eq_ok_iff, ListSpelled.cons_iff blank]
      constructor
      · rintro ⟨address, first, rest⟩
        obtain ⟨others, listed, made⟩ := bind_eq_ok_iff.mp rest
        exact ⟨address, others, (reads _ _).mp first, ih.mp listed, (Except.ok.inj made).symm⟩
      · rintro ⟨address, others, spelled, listed, rfl⟩
        exact ⟨address, (reads _ _).mpr spelled, bind_eq_ok_iff.mpr ⟨others, ih.mpr listed, rfl⟩⟩

/-- A list is refused for its first piece that is neither blank nor an address. -/
theorem mapM_filledPieces_eq_error_iff
    (reads : ∀ piece address, read piece = .ok address ↔
      ServerAddress.Spelled (Text.trim piece) address)
    {pieces : List (List Char)} {error : ε} :
    (filledPieces pieces).mapM read = .error error ↔
      ∃ before bad after servers, pieces = before ++ bad :: after ∧ ListSpelled before servers ∧
        Text.trim bad ≠ [] ∧ read bad = .error error := by
  rw [mapM_eq_error_iff]
  constructor
  · rintro ⟨filled, bad, others, servers, kept, done, refused⟩
    obtain ⟨front, rest, rfl, rfl, tail⟩ := List.filter_eq_append_iff.mp kept
    obtain ⟨blanks, after, rfl, skipped, solid, -⟩ := List.filter_eq_cons_iff.mp tail
    have empty : filledPieces blanks = [] := List.filter_eq_nil_iff.mpr skipped
    refine ⟨front ++ blanks, bad, after, servers, by simp, ?_, by simpa using solid, refused⟩
    rw [← mapM_filledPieces_eq_ok_iff reads, filledPieces, List.filter_append, ← filledPieces,
      ← filledPieces, empty, List.append_nil]
    exact done
  · rintro ⟨before, bad, after, servers, rfl, listed, solid, refused⟩
    refine ⟨filledPieces before, bad, filledPieces after, servers, ?_,
      (mapM_filledPieces_eq_ok_iff reads).mpr listed, refused⟩
    rw [filledPieces, List.filter_append, ← filledPieces, ← filledPieces, filledPieces_cons solid]

end

theorem parseServerList_eq_ok_iff {list : String} {servers : List ServerAddress} :
    parseServerList list = .ok servers ↔
      ListSpelled (list.toList.splitOnP isListSeparator) servers :=
  mapM_filledPieces_eq_ok_iff fun _ _ => ServerAddress.parse_eq_ok_iff

/-- Addresses and lists are read exactly as the grammar spells them, and all other texts are refused with
what does not follow it. -/
theorem addresses_follow_grammar :
    (∀ text address, ServerAddress.parse text = .ok address ↔
      ∃ core, Text.Trimmed text core ∧ ServerAddress.Spelled core address) ∧
    (∀ text error, ServerAddress.parse text = .error error ↔
      ∃ core, Text.Trimmed text core ∧ (∀ address, ¬ ServerAddress.Spelled core address) ∧
        error = .invalidServerAddress (.ofList core)) ∧
    (∀ list servers, parseServerList list = .ok servers ↔
      ∃ pieces, Text.Pieces isListSeparator list.toList pieces ∧ ListSpelled pieces servers) ∧
    ∀ list error, parseServerList list = .error error ↔
      ∃ before bad after servers, Text.Pieces isListSeparator list.toList (before ++ bad :: after) ∧
        ListSpelled before servers ∧
        ∃ core, Text.Trimmed bad core ∧ core ≠ [] ∧
          (∀ address, ¬ ServerAddress.Spelled core address) ∧
          error = .invalidServerAddress (.ofList core) := by
  refine ⟨fun text address => ?_, fun text error => ?_, fun list servers => ?_, fun list error => ?_⟩
  · rw [ServerAddress.parse_eq_ok_iff, Text.exists_trimmed_iff]
  · simp only [ServerAddress.parse_eq_error_iff, Text.exists_trimmed_iff]
  · simp only [parseServerList_eq_ok_iff, ← Text.splitOnP_eq_iff, exists_eq_left']
  · have refused : parseServerList list = .error error ↔ _ :=
      mapM_filledPieces_eq_error_iff fun _ _ => ServerAddress.parse_eq_ok_iff
    simp only [refused, Text.splitOnP_eq_iff, ServerAddress.parse_eq_error_iff, Text.exists_trimmed_iff]

end HotRod
