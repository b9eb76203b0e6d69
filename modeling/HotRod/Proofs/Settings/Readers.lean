import HotRod.Proofs.Action
import HotRod.Proofs.Text.Pieces
import HotRod.Settings.Key
set_option autoImplicit false

/-!
# The texts of values

Which texts the readers of properties and settings take for a value. Blanks around a text and the case of
its letters do not matter to them; how numbers are written is told in `HotRod.Proofs.Text.Decimal`.
-/

namespace HotRod

theorem ofList_map_trim_eq_iff {respell : Char → Char} {text name : String} :
    String.ofList ((Text.trim text.toList).map respell) = name ↔
      ∃ core, Text.Trimmed text.toList core ∧ core.map respell = name.toList := by
  rw [Text.exists_trimmed_iff, ← String.toList_inj, String.toList_ofList]

theorem Text.readFlag?_eq_some_iff {text : List Char} {flag : Bool} :
    readFlag? text = some flag ↔ text = (flagText flag).toList := by
  constructor
  · intro read
    unfold readFlag? at read
    split at read
    · next same => exact Option.some.inj read ▸ same
    · split at read
      · next same => exact Option.some.inj read ▸ same
      · contradiction
  · rintro rfl
    exact readFlag?_flagText flag

theorem readFlag_eq_ok_iff {text : String} {flag : Bool} :
    readFlag text = .ok flag ↔
      ∃ core, Text.Trimmed text.toList core ∧
        core.map Char.toLower = (Text.flagText flag).toList := by
  rw [Text.exists_trimmed_iff, ← Text.readFlag?_eq_some_iff, readFlag]
  cases Text.readFlag? ((Text.trim text.toList).map Char.toLower) with
  | none => exact iff_of_false nofun nofun
  | some other => rw [Except.ok.injEq, Option.some.injEq]

theorem readSettingFlag_eq_ok_iff_readFlag {text : String} {flag : Bool} :
    readSettingFlag text = .ok flag ↔ readFlag text = .ok flag := by
  rw [readFlag, readSettingFlag, Text.trim_map_toLower]
  cases Text.readFlag? ((Text.trim text.toList).map Char.toLower) with
  | none => exact iff_of_false nofun nofun
  | some other => rw [Except.ok.injEq, Except.ok.injEq]

theorem readSettingFlag_eq_ok_iff {text : String} {flag : Bool} :
    readSettingFlag text = .ok flag ↔
      ∃ core, Text.Trimmed text.toList core ∧
        core.map Char.toLower = (Text.flagText flag).toList := by
  rw [readSettingFlag_eq_ok_iff_readFlag, readFlag_eq_ok_iff]

theorem readNumber_eq_ok_iff {α : Type} {reader : List Char → Except Text.NumberFault α}
    {text : String} {number : α} :
    readNumber reader text = .ok number ↔
      ∃ core, Text.Trimmed text.toList core ∧ reader core = .ok number := by
  rw [Text.exists_trimmed_iff, readNumber, mapError_eq_ok_iff]

theorem ClientIntelligence.read_eq_ok_iff {text : String} {intelligence : ClientIntelligence} :
    read text = .ok intelligence ↔
      ∃ core, Text.Trimmed text.toList core ∧
        core.map (fun c => if c = '-' then '_' else c.toUpper) = intelligence.text.toList := by
  rw [← ofList_map_trim_eq_iff, ← nameOf, read]
  constructor
  · intro taken
    split_ifs at taken with basic aware distributed
    all_goals
      cases taken
      assumption
  · intro named
    simp only [named]
    cases intelligence <;> rfl

theorem NearCacheMode.read_eq_ok_iff {text : String} {mode : NearCacheMode} :
    read text = .ok mode ↔
      ∃ core, Text.Trimmed text.toList core ∧ core.map Char.toUpper = mode.text.toList := by
  rw [← ofList_map_trim_eq_iff, ← nameOf, read]
  constructor
  · intro taken
    split_ifs at taken with disabled invalidated
    all_goals
      cases taken
      assumption
  · intro named
    simp only [named]
    cases mode <;> rfl

/-- Ciphers are the pieces of a text that hold anything, in order. -/
theorem readCiphers_eq_iff {text : String} {names : List String} :
    readCiphers text = names ↔
      ∃ pieces, Text.Pieces (fun c => c == ',' || Text.isBlank c) text.toList pieces ∧
        names.map String.toList = pieces.filter (!·.isEmpty) := by
  constructor
  · rintro rfl
    refine ⟨_, Text.pieces_splitOnP _, ?_⟩
    simp [readCiphers, Function.comp_def]
  · rintro ⟨pieces, parted, same⟩
    rw [readCiphers, parted.splitOnP_eq, ← same]
    simp [Function.comp_def]

end HotRod
