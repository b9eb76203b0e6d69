import HotRod.Text.Blank
import HotRod.Text.Split
import Mathlib.Data.List.DropRight
set_option autoImplicit false

/-!
# Pieces put together and cut again

Pieces that hold no separator are found again when they are put together with separators between them.
-/

namespace HotRod.Text

theorem splitOnP_intercalate {isSeparator : Char → Bool} {separator : Char}
    (cuts : isSeparator separator = true) {pieces : List (List Char)} (nonempty : pieces ≠ [])
    (whole : ∀ piece ∈ pieces, ∀ c ∈ piece, isSeparator c = false) :
    ([separator].intercalate pieces).splitOnP isSeparator = pieces := by
  induction pieces with
  | nil => exact absurd rfl nonempty
  | cons piece pieces ih =>
    rw [List.forall_mem_cons] at whole
    cases pieces with
    | nil => simpa using List.splitOnP_eq_singleton whole.1
    | cons other others =>
      rw [List.intercalate_cons_cons, List.append_assoc, List.singleton_append,
        List.splitOnP_append_cons_of_forall_mem whole.1 separator cuts]
      rw [ih (List.cons_ne_nil _ _) whole.2]

theorem withoutPrefix?_eq_none_iff {beginning text : List Char} :
    withoutPrefix? beginning text = none ↔ ¬ beginning <+: text := by
  simp [withoutPrefix?]

theorem eq_append_of_withoutPrefix? {beginning text : String} {rest : List Char}
    (found : withoutPrefix? beginning.toList text.toList = some rest) :
    text = beginning ++ .ofList rest := by
  rw [← String.toList_inj, withoutPrefix?_eq_some_iff.mp found, String.toList_append,
    String.toList_ofList]

theorem not_infix_dropLast {separator : List Char} (nonempty : separator ≠ []) :
    ¬ separator <:+: separator.dropLast := by
  intro inside
  have bound := inside.length_le
  have positive := List.length_pos_iff.mpr nonempty
  rw [List.length_dropLast] at bound
  omega

theorem infix_append_dropLast_iff {separator before : List Char} (nonempty : separator ≠ []) :
    separator <:+: before ++ separator.dropLast ↔
      separator <:+: before ∨ ∃ front back, front ≠ [] ∧ back ≠ [] ∧ separator = front ++ back ∧
        front <:+ before ∧ back <+: separator.dropLast := by
  rw [List.infix_append_iff_ne_nil, or_iff_right (not_infix_dropLast nonempty)]

theorem splitFirst?_eq_none_iff {first : Char} {more text : List Char} :
    splitFirst? (first :: more) text = none ↔ ¬ (first :: more) <:+: text := by
  induction text with
  | nil => simp [splitFirst?]
  | cons c text ih =>
    rw [List.infix_cons_iff, not_or, ← ih, splitFirst?]
    by_cases found : (first :: more) <+: c :: text
    · rw [if_pos (List.isPrefixOf_iff_prefix.mpr found)]
      exact iff_of_false (Option.some_ne_none _) fun absent => absent.1 found
    · rw [if_neg (mt List.isPrefixOf_iff_prefix.mp found), Option.map_eq_none_iff]
      exact (and_iff_right found).symm

/-- A cut is made where the separator stands first: it is found neither in the text before nor across the
edge of that text. -/
theorem splitFirst?_eq_some_iff {first : Char} {more text before after : List Char} :
    splitFirst? (first :: more) text = some (before, after) ↔
      text = before ++ (first :: more) ++ after ∧
        ¬ (first :: more) <:+: before ++ (first :: more).dropLast := by
  have within (before : List Char) :
      before ++ (first :: more).dropLast <+: before ++ (first :: more) ++ after := by
    rw [List.append_assoc, List.prefix_append_right_inj]
    exact (List.dropLast_prefix _).trans (List.prefix_append _ _)
  induction text generalizing before with
  | nil => simp [splitFirst?]
  | cons c text ih =>
    rw [splitFirst?]
    by_cases found : (first :: more) <+: c :: text
    · rw [if_pos (List.isPrefixOf_iff_prefix.mpr found)]
      obtain ⟨rest, here⟩ := found
      constructor
      · intro cut
        obtain ⟨rfl, rfl⟩ := Prod.mk.inj (Option.some.inj cut)
        refine ⟨?_, not_infix_dropLast (List.cons_ne_nil _ _)⟩
        rw [← here]
        simp
      · rintro ⟨spelled, once⟩
        cases before with
        | nil => simp [spelled]
        | cons d before =>
          have early : (first :: more) <+: d :: before ++ (first :: more).dropLast := by
            refine List.prefix_of_prefix_length_le ⟨rest, here.trans spelled⟩ (within _) ?_
            simp
          exact absurd early.isInfix once
    · rw [if_neg (mt List.isPrefixOf_iff_prefix.mp found), Option.map_eq_some_iff]
      constructor
      · rintro ⟨⟨front, back⟩, cut, same⟩
        obtain ⟨rfl, rfl⟩ := Prod.mk.inj same
        obtain ⟨rfl, once⟩ := ih.mp cut
        refine ⟨rfl, ?_⟩
        rw [List.cons_append, List.infix_cons_iff, not_or]
        exact ⟨fun early => found (early.trans (within (c :: front))), once⟩
      · rintro ⟨spelled, once⟩
        cases before with
        | nil => exact absurd ⟨after, spelled.symm⟩ found
        | cons d before =>
          obtain ⟨rfl, rfl⟩ := List.cons.inj spelled
          rw [List.cons_append, List.infix_cons_iff, not_or] at once
          exact ⟨(before, after), ih.mpr ⟨rfl, once.2⟩, rfl⟩

/-- A separator is found where it was put, if the text before it lacks its first character. -/
theorem splitFirst?_append {first : Char} {before : List Char} (absent : first ∉ before)
    (more after : List Char) :
    splitFirst? (first :: more) (before ++ (first :: more) ++ after) = some (before, after) := by
  refine splitFirst?_eq_some_iff.mpr ⟨rfl, fun found => ?_⟩
  rcases (infix_append_dropLast_iff (List.cons_ne_nil _ _)).mp found with
    inside | ⟨front, back, nonempty, -, cut, ends, -⟩
  · exact absent (inside.subset List.mem_cons_self)
  · obtain ⟨c, front, rfl⟩ := List.exists_cons_of_ne_nil nonempty
    obtain ⟨rfl, -⟩ := List.cons.inj cut
    exact absent (ends.subset List.mem_cons_self)

theorem splitFirst?_eq_none {separator : Char} {text : List Char} (absent : separator ∉ text) :
    splitFirst? [separator] text = none :=
  splitFirst?_eq_none_iff.mpr fun found => absent (found.subset List.mem_cons_self)

theorem splitFirst?_append_of_eq_none {first : Char} {more before : List Char} (once : first ∉ more)
    (uncut : splitFirst? (first :: more) before = none) (after : List Char) :
    splitFirst? (first :: more) (before ++ (first :: more) ++ after) = some (before, after) := by
  refine splitFirst?_eq_some_iff.mpr ⟨rfl, fun found => ?_⟩
  rcases (infix_append_dropLast_iff (List.cons_ne_nil _ _)).mp found with
    inside | ⟨front, back, started, nonempty, cut, -, begins⟩
  · exact splitFirst?_eq_none_iff.mp uncut inside
  · obtain ⟨c, front, rfl⟩ := List.exists_cons_of_ne_nil started
    obtain ⟨d, back, rfl⟩ := List.exists_cons_of_ne_nil nonempty
    obtain ⟨-, rfl⟩ := List.cons.inj cut
    obtain ⟨rfl, -⟩ := List.cons_prefix_cons.mp (begins.trans (List.dropLast_prefix _))
    exact once (List.mem_append_right _ List.mem_cons_self)

theorem splitFirst?_trimStart {first : Char} {more text : List Char}
    (uncut : splitFirst? (first :: more) text = none) :
    splitFirst? (first :: more) (trimStart text) = none := by
  rw [splitFirst?_eq_none_iff] at uncut ⊢
  exact fun found => uncut (found.trans (List.dropWhile_suffix isBlank).isInfix)

theorem splitLast?_append {separator : Char} (before : List Char) {after : List Char}
    (absent : separator ∉ after) :
    splitLast? separator (before ++ separator :: after) = some (before, after) := by
  have reversed : separator ∉ after.reverse := by simpa using absent
  have mirrored : (before ++ separator :: after).reverse =
      after.reverse ++ separator :: before.reverse := by simp
  have found := splitFirst?_append reversed [] before.reverse
  rw [List.append_assoc, List.singleton_append] at found
  rw [splitLast?, mirrored, found]
  simp

theorem splitLast?_eq_none {separator : Char} {text : List Char} (absent : separator ∉ text) :
    splitLast? separator text = none := by
  have reversed : separator ∉ text.reverse := by simpa using absent
  rw [splitLast?, splitFirst?_eq_none reversed]
  rfl

theorem trim_of_forall {text : List Char} (solid : ∀ c ∈ text, isBlank c = false) :
    trim text = text := by
  have kept : ∀ text : List Char, (∀ c ∈ text, isBlank c = false) → text.dropWhile isBlank = text := by
    intro text solid
    cases text with
    | nil => rfl
    | cons c text => rw [List.dropWhile_cons_of_neg (by simp [solid c List.mem_cons_self])]
  rw [trim, trimStart, kept text solid, trimEnd, kept text.reverse, List.reverse_reverse]
  intro c member
  exact solid c (List.mem_reverse.mp member)

theorem isLower_toLower {c : Char} (upper : c.isUpper = true) : c.toLower.isLower = true := by
  have range : c.val ≥ 'A'.val ∧ c.val ≤ 'Z'.val := of_decide_eq_true upper
  have below : 65 ≤ c.val.toNat ∧ c.val.toNat ≤ 90 := range
  have code : (c.val + 32).toNat = c.val.toNat + 32 := by
    have small : c.val.toNat + 32 < 4294967296 := by omega
    rw [UInt32.toNat_add]
    exact Nat.mod_eq_of_lt small
  have changed : c.toLower.val = c.val + 32 := congrArg Char.val (dif_pos range)
  have within : 97 ≤ c.toLower.val.toNat ∧ c.toLower.val.toNat ≤ 122 := by
    rw [changed]
    omega
  exact Bool.and_eq_true_iff.mpr ⟨decide_eq_true within.1, decide_eq_true within.2⟩

theorem isBlank_toLower (c : Char) : isBlank c.toLower = isBlank c := by
  by_cases upper : c.isUpper = true
  · have lower := isLower_toLower upper
    have letter : c.isAlpha = true := Bool.or_eq_true_iff.mpr (.inl upper)
    have letter' : c.toLower.isAlpha = true := Bool.or_eq_true_iff.mpr (.inr lower)
    rw [isBlank_of_isAlphanum (Bool.or_eq_true_iff.mpr (.inl letter)),
      isBlank_of_isAlphanum (Bool.or_eq_true_iff.mpr (.inl letter'))]
  · have same : c.toLower = c := dif_neg fun range => upper (decide_eq_true range)
    rw [same]

theorem trim_map_toLower (text : List Char) :
    trim (text.map Char.toLower) = (trim text).map Char.toLower := by
  have kept : isBlank ∘ Char.toLower = isBlank := funext isBlank_toLower
  rw [trim, trimStart, List.dropWhile_map, kept, trimEnd, ← List.map_reverse, List.dropWhile_map, kept,
    ← List.map_reverse, trim, trimStart, trimEnd]

theorem dropWhile_append_cons {drops : Char → Bool} {c : Char} (stays : drops c = false)
    (before after : List Char) :
    (before ++ c :: after).dropWhile drops = before.dropWhile drops ++ c :: after := by
  induction before with
  | nil => exact List.dropWhile_cons_of_neg (by simp [stays])
  | cons d before ih =>
    rw [List.cons_append, List.dropWhile_cons, List.dropWhile_cons]
    split
    · exact ih
    · rfl

theorem rdropWhile_append_cons {drops : Char → Bool} {c : Char} (stays : drops c = false)
    (before after : List Char) :
    (before ++ c :: after).rdropWhile drops = before ++ c :: after.rdropWhile drops := by
  have mirrored : (before ++ c :: after).reverse = after.reverse ++ c :: before.reverse := by simp
  rw [List.rdropWhile, mirrored, dropWhile_append_cons stays, List.rdropWhile]
  simp

theorem trimStart_append_cons {c : Char} (solid : isBlank c = false) (before after : List Char) :
    trimStart (before ++ c :: after) = trimStart before ++ c :: after :=
  dropWhile_append_cons solid before after

theorem trimEnd_append_cons {c : Char} (solid : isBlank c = false) (before after : List Char) :
    trimEnd (before ++ c :: after) = before ++ c :: trimEnd after :=
  rdropWhile_append_cons solid before after

theorem mem_of_mem_rdropWhile {drops : Char → Bool} {c : Char} {text : List Char}
    (member : c ∈ text.rdropWhile drops) : c ∈ text :=
  (List.rdropWhile_prefix drops text).subset member

def IsWord (text : String) : Prop := text ≠ "" ∧ ∀ c ∈ text.toList, isBlank c = false

instance : DecidablePred IsWord := fun text =>
  @instDecidableAnd _ _ inferInstance (List.decidableBAll (isBlank · = false) text.toList)

theorem words_intercalate {texts : List String} (nonempty : texts ≠ [])
    (single : ∀ text ∈ texts, IsWord text) :
    (words (String.intercalate " " texts).toList).map String.ofList = texts := by
  have whole : ∀ piece ∈ texts.map String.toList, ∀ c ∈ piece, isBlank c = false := by
    intro piece member
    obtain ⟨text, present, rfl⟩ := List.mem_map.mp member
    exact (single text present).2
  have cut : (String.intercalate " " texts).toList.splitOnP isBlank = texts.map String.toList := by
    rw [String.toList_intercalate]
    exact splitOnP_intercalate (by decide) (by simpa using nonempty) whole
  have kept : (texts.map String.toList).filter (!·.isEmpty) = texts.map String.toList := by
    rw [List.filter_eq_self]
    intro piece member
    obtain ⟨text, present, rfl⟩ := List.mem_map.mp member
    simpa using (single text present).1
  rw [words, cut, kept, List.map_map]
  simp

end HotRod.Text
