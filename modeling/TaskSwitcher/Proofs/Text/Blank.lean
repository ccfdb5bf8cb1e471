import TaskSwitcher.Text.Blank
import TaskSwitcher.Text.Lowercase

/-!
# Blanks in front of a text

Trimming leaves no blank in front of a text, and lowercasing neither puts one there nor takes one away,
because a character is blank exactly if its lowercase form is. So texts that differ in case only either all
start with a blank or none of them does.
-/

namespace TaskSwitcher.Text

/-- Whether the first character is blank. -/
def startsBlank (text : List Char) : Bool :=
  text.head?.any isBlank

variable {text front : List Char} {character : Char}

/-- The front of a text that starts with no blank starts with none. -/
theorem startsBlank_of_isPrefix (within : front <+: text) (plain : startsBlank text = false) :
    startsBlank front = false := by
  obtain ⟨rest, rfl⟩ := within
  cases front with
  | nil => rfl
  | cons first others => exact plain

/-- Texts that start with no blank make such a text together. -/
theorem startsBlank_append (plain : startsBlank front = false) (plainRest : startsBlank text = false) :
    startsBlank (front ++ text) = false := by
  cases front with
  | nil => exact plainRest
  | cons first others => exact plain

/-! ### Trimming -/

/-- No blank is left at the start. -/
theorem startsBlank_trimStart (text : List Char) : startsBlank (trimStart text) = false := by
  have first := List.head?_dropWhile_not isBlank text
  rw [startsBlank, trimStart]
  split at first
  · next search => rw [search, Option.any_some, first]
  · next search => rw [search, Option.any_none]

/-- What is left of the end is the front of the text. -/
theorem trimEnd_isPrefix (text : List Char) : trimEnd text <+: text := by
  have kept : (text.reverse.dropWhile isBlank).reverse <+: text.reverse.reverse :=
    List.reverse_prefix.2 (List.dropWhile_suffix isBlank)
  rwa [List.reverse_reverse] at kept

/-- No blank is left at the start when the end is trimmed as well. -/
theorem startsBlank_trim (text : List Char) : startsBlank (trim text) = false :=
  startsBlank_of_isPrefix (trimEnd_isPrefix _) (startsBlank_trimStart text)

/-- A text that starts with no blank is left alone. -/
theorem trimStart_eq_self (plain : startsBlank text = false) : trimStart text = text := by
  cases text with
  | nil => rfl
  | cons first rest => exact List.dropWhile_cons_of_neg (Bool.eq_false_iff.1 plain)

/-- A text without blanks at its two ends is not changed by trimming. -/
theorem trim_eq_self (plain : startsBlank text = false) (plainEnd : startsBlank text.reverse = false) :
    trim text = text := by
  rw [trim, trimStart_eq_self plain, trimEnd]
  refine Eq.trans ?_ text.reverse_reverse
  exact congrArg List.reverse (trimStart_eq_self plainEnd)

/-! ### Removing an ending -/

/-- Whether or not the ending is there, what is left is the front of the text. -/
theorem withoutEnding_isPrefix (ending text : List Char) : withoutEnding ending text <+: text := by
  unfold withoutEnding
  split
  · exact text.take_prefix _
  · exact List.prefix_rfl

/-- An ending that was put on comes off again. -/
theorem withoutEnding_append (text ending : List Char) : withoutEnding ending (text ++ ending) = text := by
  have ends : ending.isSuffixOf (text ++ ending) = true :=
    List.isSuffixOf_iff_suffix.2 (List.suffix_append text ending)
  rw [withoutEnding, if_pos ends, List.length_append, Nat.add_sub_cancel, List.take_left]

/-! ### Lowercasing -/

/-- The code points of the blank characters. -/
def blankPoints : List Nat := [
  0x9, 0xA, 0xB, 0xC, 0xD, 0x20, 0x85, 0xA0, 0x1680, 0x2000, 0x2001, 0x2002, 0x2003, 0x2004, 0x2005,
  0x2006, 0x2007, 0x2008, 0x2009, 0x200A, 0x2028, 0x2029, 0x202F, 0x205F, 0x3000]

/-- A character is blank when its code point is one of the listed ones. -/
theorem isBlank_iff : isBlank character = true ↔ character.toNat ∈ blankPoints := by
  simp only [isBlank, blankPoints, Bool.or_eq_true, Bool.and_eq_true, decide_eq_true_iff, beq_iff_eq,
    List.mem_cons, List.not_mem_nil, or_false]
  omega

/-- No run of case mappings starts from a blank or leads to one. -/
theorem caseRuns_avoid_blanks : ∀ run ∈ caseRuns, ∀ blank ∈ blankPoints,
    ¬(run.first ≤ blank ∧ blank ≤ run.last) ∧
      ¬(run.target ≤ blank ∧ blank ≤ run.target + (run.last - run.first)) := by
  decide +kernel

/-- A code point that is not that of a character stands for the null character, which is not blank. -/
theorem isBlank_ofNat (point : Nat) : isBlank (Char.ofNat point) = true → point ∈ blankPoints := by
  intro blank
  rw [isBlank_iff, Char.ofNat] at blank
  by_cases valid : point.isValidChar
  · rwa [dif_pos valid] at blank
  · rw [dif_neg valid] at blank
    exact absurd blank (by decide)

/-- Lowercase leads from no blank character and to none. -/
theorem isBlank_of_image {run : CaseRun} (listed : run ∈ caseRuns) {image : Nat}
    (maps : run.image character.toNat = some image) :
    isBlank character = false ∧ isBlank (Char.ofNat image) = false := by
  rw [CaseRun.image, Option.ite_none_right_eq_some] at maps
  obtain ⟨⟨lower, upper, -⟩, same⟩ := maps
  have image_eq := Option.some.inj same
  have avoids := caseRuns_avoid_blanks run listed
  constructor
  · rw [← Bool.not_eq_true, isBlank_iff]
    exact fun blank => (avoids _ blank).1 ⟨lower, upper⟩
  · rw [← Bool.not_eq_true]
    intro blank
    exact (avoids image (isBlank_ofNat image blank)).2 (by omega)

/-- A character is blank exactly if its lowercase form is. -/
theorem isBlank_lowercaseChar (character : Char) :
    isBlank (lowercaseChar character) = isBlank character := by
  unfold lowercaseChar
  split
  · next image found =>
      obtain ⟨run, listed, maps⟩ := List.exists_of_findSome?_eq_some found
      obtain ⟨plain, plainImage⟩ := isBlank_of_image listed maps
      rw [plain, plainImage]
  · rfl

/-- The lowercase of a character starts with a blank only if the character is one. -/
theorem startsBlank_lowercaseAt (before : List Char) (character : Char) (after rest : List Char) :
    startsBlank (lowercaseAt before character after ++ rest) = isBlank character := by
  unfold lowercaseAt
  split
  · next sigma =>
      have plain : isBlank 'Σ' = false := by decide
      rw [sigma, plain]
      split <;> rfl
  · split
    · next dotted =>
        have plain : isBlank 'İ' = false := by decide
        rw [dotted, plain]
        rfl
    · exact isBlank_lowercaseChar character

/-- Lowercasing keeps a blank in front of a text, and puts none there. -/
theorem startsBlank_lowercase (text : List Char) : startsBlank (lowercase text) = startsBlank text := by
  cases text with
  | nil => rfl
  | cons first rest => exact startsBlank_lowercaseAt [] first rest _

/-- Nothing but the empty text is empty in lowercase. -/
theorem lowercase_eq_nil_iff : lowercase text = [] ↔ text = [] := by
  cases text with
  | nil => exact iff_of_true rfl rfl
  | cons first rest =>
      refine iff_of_false (fun empty => ?_) (List.cons_ne_nil first rest)
      have form := (List.append_eq_nil_iff.1 empty).1
      unfold lowercaseAt at form
      split at form
      · cases form
      · split at form <;> cases form

end TaskSwitcher.Text
