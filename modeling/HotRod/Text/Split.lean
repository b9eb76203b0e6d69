set_option autoImplicit false

/-!
# Cutting texts

A text is cut at the first or the last occurrence of a separator, or loses a known beginning or
ending. Cutting at every separator is `List.splitOn` and `List.splitOnP`.
-/

namespace HotRod.Text

/-- The texts before and after the first occurrence of a separator. -/
def splitFirst? (separator : List Char) : List Char → Option (List Char × List Char)
  | [] => if separator.isEmpty then some ([], []) else none
  | c :: rest =>
    if separator.isPrefixOf (c :: rest) then some ([], (c :: rest).drop separator.length)
    else (splitFirst? separator rest).map fun (before, after) => (c :: before, after)

/-- The texts before and after the last occurrence of a character. -/
def splitLast? (separator : Char) (text : List Char) : Option (List Char × List Char) :=
  (splitFirst? [separator] text.reverse).map fun (after, before) => (before.reverse, after.reverse)

def withoutPrefix? (beginning text : List Char) : Option (List Char) :=
  if beginning.isPrefixOf text then some (text.drop beginning.length) else none

def withoutSuffix? (ending text : List Char) : Option (List Char) :=
  if ending.isSuffixOf text then some (text.take (text.length - ending.length)) else none

theorem withoutPrefix?_eq_some_iff {beginning text rest : List Char} :
    withoutPrefix? beginning text = some rest ↔ text = beginning ++ rest := by
  simp only [withoutPrefix?, List.isPrefixOf_iff_prefix]
  constructor
  · intro h
    split at h
    · next found =>
      obtain ⟨tail, rfl⟩ := found
      simp_all
    · simp at h
  · rintro rfl
    simp

theorem withoutSuffix?_eq_some_iff {ending text rest : List Char} :
    withoutSuffix? ending text = some rest ↔ text = rest ++ ending := by
  simp only [withoutSuffix?, List.isSuffixOf_iff_suffix]
  constructor
  · intro h
    split at h
    · next found =>
      obtain ⟨front, rfl⟩ := found
      simp_all
    · simp at h
  · rintro rfl
    simp

end HotRod.Text
