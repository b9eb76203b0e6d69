import HotRod.Proofs.Text.Split
set_option autoImplicit false

/-!
# Blanks around a text, and its pieces

How a text is put together, stated as relations: a core with blanks around it, or pieces with a separator
between any two. Trimming finds the only core a text has, and cutting at separators its only pieces.
-/

namespace HotRod.Text

/-- A text is its core with blanks around it, and the core neither begins nor ends with one. -/
structure Trimmed (text core : List Char) : Prop where
  surrounded : ∃ before after, text = before ++ core ++ after ∧
    (∀ c ∈ before, isBlank c = true) ∧ ∀ c ∈ after, isBlank c = true
  begins : ∀ c ∈ core.head?, isBlank c = false
  ends : ∀ c ∈ core.getLast?, isBlank c = false

theorem trimStart_eq_nil {text : List Char} (blank : ∀ c ∈ text, isBlank c = true) :
    trimStart text = [] :=
  List.dropWhile_eq_nil_iff.mpr blank

theorem trimEnd_eq_nil {text : List Char} (blank : ∀ c ∈ text, isBlank c = true) :
    trimEnd text = [] :=
  List.rdropWhile_eq_nil_iff.mpr blank

theorem trimmed_trim (text : List Char) : Trimmed text (trim text) := by
  have start : text.takeWhile isBlank ++ trimStart text = text := List.takeWhile_append_dropWhile
  have finish : trim text ++ (trimStart text).rtakeWhile isBlank = trimStart text :=
    List.rdropWhile_append_rtakeWhile
  constructor
  · refine ⟨text.takeWhile isBlank, (trimStart text).rtakeWhile isBlank, ?_, ?_, ?_⟩
    · rw [List.append_assoc, finish, start]
    · intro c member
      exact List.mem_takeWhile_imp member
    · intro c member
      exact List.mem_rtakeWhile_imp member
  · intro c first
    have kept : (trimStart text).head? = some c := by
      rw [← finish, List.head?_append, Option.mem_def.mp first]
      rfl
    have stays := List.head?_dropWhile_not isBlank text
    rw [← trimStart, kept] at stays
    simpa using stays
  · intro c last
    obtain ⟨filled, rfl⟩ := List.mem_getLast?_eq_getLast last
    have stays := List.rdropWhile_last_not isBlank (trimStart text) filled
    exact eq_false_of_ne_true stays

/-- A text has no core but the one that trimming finds. -/
theorem Trimmed.trim_eq {text core : List Char} (trimmed : Trimmed text core) : trim text = core := by
  obtain ⟨before, after, rfl, blankBefore, blankAfter⟩ := trimmed.surrounded
  rcases core with - | ⟨c, more⟩
  · have blank : ∀ c ∈ before ++ [] ++ after, isBlank c = true := by
      intro c member
      rw [List.append_nil] at member
      exact (List.mem_append.mp member).elim (blankBefore c) (blankAfter c)
    rw [trim, trimStart_eq_nil blank]
    rfl
  · have first : isBlank c = false := trimmed.begins c rfl
    have start : trimStart (before ++ c :: more ++ after) = c :: more ++ after := by
      rw [List.append_assoc, List.cons_append, trimStart_append_cons first,
        trimStart_eq_nil blankBefore]
      rfl
    obtain ⟨front, d, core⟩ := List.eq_nil_or_concat (c :: more) |>.resolve_left (List.cons_ne_nil _ _)
    have last : isBlank d = false := trimmed.ends d (by rw [core]; simp)
    rw [trim, start, core, List.concat_eq_append, List.append_assoc, List.singleton_append,
      trimEnd_append_cons last, trimEnd_eq_nil blankAfter]

theorem trim_eq_iff {text core : List Char} : trim text = core ↔ Trimmed text core := by
  constructor
  · rintro rfl
    exact trimmed_trim text
  · exact Trimmed.trim_eq

theorem exists_trimmed_iff {text : List Char} {holds : List Char → Prop} :
    (∃ core, Trimmed text core ∧ holds core) ↔ holds (trim text) := by
  constructor
  · rintro ⟨core, trimmed, held⟩
    rwa [trimmed.trim_eq]
  · exact fun held => ⟨trim text, trimmed_trim text, held⟩

theorem Trimmed.append {text core blanks : List Char} (trimmed : Trimmed text core)
    (blank : ∀ c ∈ blanks, isBlank c = true) : Trimmed (text ++ blanks) core := by
  obtain ⟨before, after, rfl, blankBefore, blankAfter⟩ := trimmed.surrounded
  refine ⟨⟨before, after ++ blanks, by simp, blankBefore, fun c member => ?_⟩, trimmed.begins,
    trimmed.ends⟩
  exact (List.mem_append.mp member).elim (blankAfter c) (blank c)

theorem trim_trimEnd (text : List Char) : trim (trimEnd text) = trim text := by
  have whole : trimEnd text ++ text.rtakeWhile isBlank = text :=
    List.rdropWhile_append_rtakeWhile
  have core := (trimmed_trim (trimEnd text)).append fun c => @List.mem_rtakeWhile_imp _ isBlank text c
  rw [whole] at core
  exact core.trim_eq.symm

theorem trim_eq_nil_iff {text : List Char} : trim text = [] ↔ ∀ c ∈ text, isBlank c = true := by
  constructor
  · intro empty c member
    obtain ⟨before, after, whole, blankBefore, blankAfter⟩ := (trim_eq_iff.mp empty).surrounded
    rw [whole, List.append_nil] at member
    exact (List.mem_append.mp member).elim (blankBefore c) (blankAfter c)
  · intro blank
    rw [trim, trimStart_eq_nil blank]
    rfl

/-- A text is its pieces with a separator between any two, and no piece holds one. -/
inductive Pieces (isSeparator : Char → Bool) : List Char → List (List Char) → Prop
  | last {piece : List Char} (whole : ∀ c ∈ piece, isSeparator c = false) :
    Pieces isSeparator piece [piece]
  | cut {piece rest : List Char} {separator : Char} {pieces : List (List Char)}
    (whole : ∀ c ∈ piece, isSeparator c = false) (cuts : isSeparator separator = true)
    (others : Pieces isSeparator rest pieces) :
    Pieces isSeparator (piece ++ separator :: rest) (piece :: pieces)

variable {isSeparator : Char → Bool}

theorem pieces_splitOnP (text : List Char) : Pieces isSeparator text (text.splitOnP isSeparator) := by
  induction text with
  | nil => exact .last (by simp)
  | cons c text ih =>
    rw [List.splitOnP_cons_eq_if_modifyHead]
    by_cases cuts : isSeparator c = true
    · rw [if_pos cuts]
      have whole : ∀ d ∈ ([] : List Char), isSeparator d = false := List.forall_mem_nil _
      exact .cut whole cuts ih
    · rw [if_neg cuts]
      have uncut : isSeparator c = false := eq_false_of_ne_true cuts
      generalize text.splitOnP isSeparator = pieces at ih ⊢
      cases ih with
      | last whole => exact .last (List.forall_mem_cons.mpr ⟨uncut, whole⟩)
      | cut whole cuts others => exact .cut (List.forall_mem_cons.mpr ⟨uncut, whole⟩) cuts others

theorem Pieces.splitOnP_eq {text : List Char} {pieces : List (List Char)}
    (parted : Pieces isSeparator text pieces) : text.splitOnP isSeparator = pieces := by
  induction parted with
  | last whole => exact List.splitOnP_eq_singleton whole
  | @cut piece rest separator pieces whole cuts others ih =>
    rw [List.splitOnP_append_cons_of_forall_mem whole separator cuts, ih]

theorem splitOnP_eq_iff {text : List Char} {pieces : List (List Char)} :
    text.splitOnP isSeparator = pieces ↔ Pieces isSeparator text pieces := by
  constructor
  · rintro rfl
    exact pieces_splitOnP text
  · exact Pieces.splitOnP_eq

theorem Pieces.congr {isSeparator' : Char → Bool} {text : List Char} {pieces : List (List Char)}
    (same : ∀ c ∈ text, isSeparator c = isSeparator' c) (parted : Pieces isSeparator text pieces) :
    Pieces isSeparator' text pieces := by
  induction parted with
  | last whole =>
    apply Pieces.last
    intro c member
    rw [← same c member, whole c member]
  | @cut piece rest separator pieces whole cuts others ih =>
    have front : ∀ c ∈ piece, isSeparator c = isSeparator' c := fun c member =>
      same c (List.mem_append_left _ member)
    have back : ∀ c ∈ separator :: rest, isSeparator c = isSeparator' c := fun c member =>
      same c (List.mem_append_right _ member)
    rw [List.forall_mem_cons] at back
    apply Pieces.cut
    · intro c member
      rw [← front c member, whole c member]
    · rw [← back.1, cuts]
    · exact ih back.2

/-- Blanks at the end of a text belong to its last piece. -/
theorem Pieces.trimEnd {text : List Char} {pieces : List (List Char)}
    (solid : ∀ c, isSeparator c = true → isBlank c = false) (parted : Pieces isSeparator text pieces) :
    ∃ others, Pieces isSeparator (trimEnd text) others ∧ others.map trim = pieces.map trim := by
  induction parted with
  | @last piece whole =>
    refine ⟨[Text.trimEnd piece], .last fun c member => ?_, by simp [trim_trimEnd]⟩
    exact whole c (mem_of_mem_rdropWhile member)
  | @cut piece rest separator pieces whole cuts others ih =>
    obtain ⟨trimmed, parted, same⟩ := ih
    refine ⟨piece :: trimmed, ?_, by rw [List.map_cons, List.map_cons, same]⟩
    rw [trimEnd_append_cons (solid separator cuts)]
    exact .cut whole cuts parted

end HotRod.Text
