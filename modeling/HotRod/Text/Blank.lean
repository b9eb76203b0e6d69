set_option autoImplicit false

/-!
# Blank characters

Settings, addresses and numbers are read after blanks around them are dropped, and lists are cut at
blanks. A blank is a character with the Unicode property `White_Space`, which is a wider class than
`Char.isWhitespace`: it also holds the vertical tab, the no-break space and the spaces of general
punctuation, but neither the zero-width space nor the byte order mark.
-/

namespace HotRod.Text

def isBlank (c : Char) : Bool :=
  let code := c.toNat
  (0x09 ≤ code && code ≤ 0x0D) || code == 0x20 || code == 0x85 || code == 0xA0 || code == 0x1680 ||
    (0x2000 ≤ code && code ≤ 0x200A) || code == 0x2028 || code == 0x2029 || code == 0x202F ||
    code == 0x205F || code == 0x3000

theorem isBlank_of_isAlphanum {c : Char} (h : c.isAlphanum = true) : isBlank c = false := by
  have code : (0x30 ≤ c.toNat ∧ c.toNat ≤ 0x39) ∨ (0x41 ≤ c.toNat ∧ c.toNat ≤ 0x5A) ∨
      (0x61 ≤ c.toNat ∧ c.toNat ≤ 0x7A) := by
    rcases Bool.or_eq_true_iff.mp h with letter | digit
    · rcases Bool.or_eq_true_iff.mp letter with upper | lower
      · have bounds : 'A'.val ≤ c.val ∧ c.val ≤ 'Z'.val := of_decide_eq_true upper
        exact .inr (.inl bounds)
      · have bounds := Bool.and_eq_true_iff.mp lower
        exact .inr (.inr ⟨of_decide_eq_true bounds.1, of_decide_eq_true bounds.2⟩)
    · have bounds := Bool.and_eq_true_iff.mp digit
      exact .inl ⟨of_decide_eq_true bounds.1, of_decide_eq_true bounds.2⟩
  simp only [isBlank, Bool.or_eq_false_iff, Bool.and_eq_false_iff, decide_eq_false_iff_not,
    beq_eq_false_iff_ne]
  omega

def trimStart (text : List Char) : List Char := text.dropWhile isBlank

def trimEnd (text : List Char) : List Char := (text.reverse.dropWhile isBlank).reverse

def trim (text : List Char) : List Char := trimEnd (trimStart text)

/-- The pieces of a text between runs of blanks. -/
def words (text : List Char) : List (List Char) := (text.splitOnP isBlank).filter (!·.isEmpty)

end HotRod.Text
