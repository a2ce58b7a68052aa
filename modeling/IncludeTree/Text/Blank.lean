/-!
# Blank characters

`isBlank` holds of the characters with the Unicode property `White_Space`, and `trim` cuts them off
both ends of a text. Texts are lists of characters here; `isBlankText` is the test on a `String`.

`trimStart_trim` and `trimEnd_trim` say that a trimmed text has no blank at its ends.
-/

namespace IncludeTree.Text

/-- Whether a character has the Unicode property `White_Space`. -/
def isBlank (c : Char) : Bool :=
  let n := c.toNat
  (9 ≤ n && n ≤ 13) || n == 0x20 || n == 0x85 || n == 0xA0 || n == 0x1680
    || (0x2000 ≤ n && n ≤ 0x200A) || n == 0x2028 || n == 0x2029 || n == 0x202F
    || n == 0x205F || n == 0x3000

/-- The text without the blanks at its start. -/
def trimStart (s : List Char) : List Char := s.dropWhile isBlank

/-- The text without the blanks at its end. -/
def trimEnd (s : List Char) : List Char := (s.reverse.dropWhile isBlank).reverse

/-- The text without the blanks at either end. -/
def trim (s : List Char) : List Char := trimEnd (trimStart s)

/-- Whether a text holds nothing but blanks; the empty text is blank. -/
def isBlankText (s : String) : Bool := s.toList.all isBlank

theorem trimEnd_prefix (s : List Char) : trimEnd s <+: s := by
  rw [← List.reverse_suffix, trimEnd, List.reverse_reverse]
  exact List.dropWhile_suffix _

/-- A trimmed text does not start with a blank. -/
theorem trimStart_trim (s : List Char) : trimStart (trim s) = trim s := by
  obtain ⟨t, ht⟩ := trimEnd_prefix (trimStart s)
  unfold trim
  cases h : trimEnd (trimStart s) with
  | nil => rfl
  | cons c u =>
    rw [h] at ht
    have hc : isBlank c = false := by
      have := List.head?_dropWhile_not isBlank s
      rw [← trimStart, ← ht] at this
      simpa using this
    simp [trimStart, hc]

/-- A trimmed text does not end with a blank. -/
theorem trimEnd_trim (s : List Char) : trimEnd (trim s) = trim s := by
  unfold trim trimEnd
  rw [List.reverse_reverse]
  congr 1
  cases h : (trimStart s).reverse.dropWhile isBlank with
  | nil => rfl
  | cons c u =>
    have hc : isBlank c = false := by
      have := List.head?_dropWhile_not isBlank (trimStart s).reverse
      rw [h] at this
      simpa using this
    simp [hc]

end IncludeTree.Text
