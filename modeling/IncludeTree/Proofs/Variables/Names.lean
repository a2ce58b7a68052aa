import IncludeTree.Text.Blank
import IncludeTree.Variables.Basic

/-!
# Names

A name holds no blank (`isBlank_of_isNamePart`). `splitName?` takes the longest name that a text
starts with: what it takes is a name (`isName_of_splitName?`), and it takes the whole of a name that
no character follows which could go on with it (`splitName?_of_isName`).
-/

namespace IncludeTree.Variables

variable {name s rest : List Char} {c : Char}

theorem isNamePart_of_isNameStart (h : isNameStart c = true) : isNamePart c = true := by
  simp only [isNameStart, isNamePart, Char.isAlphanum, Bool.or_eq_true] at h ⊢
  exact h.imp_left .inl

theorem isNamePart_of_mem (h : isName name = true) (hc : c ∈ name) : isNamePart c = true := by
  cases name with
  | nil => cases hc
  | cons x name =>
    simp only [isName, Bool.and_eq_true, List.all_eq_true] at h
    rcases List.mem_cons.mp hc with rfl | hc
    · exact isNamePart_of_isNameStart h.1
    · exact h.2 c hc

theorem toNat_of_isNamePart (h : isNamePart c = true) : 48 ≤ c.toNat ∧ c.toNat ≤ 122 := by
  have hupper (h : c.isUpper = true) : 65 ≤ c.toNat ∧ c.toNat ≤ 90 := of_decide_eq_true h
  have hlower (h : c.isLower = true) : 97 ≤ c.toNat ∧ c.toNat ≤ 122 := by
    obtain ⟨hfirst, hlast⟩ := Bool.and_eq_true_iff.mp h
    exact ⟨of_decide_eq_true hfirst, of_decide_eq_true hlast⟩
  have halpha (h : c.isAlpha = true) : c.isUpper = true ∨ c.isLower = true :=
    Bool.or_eq_true_iff.mp h
  have hdigit (h : c.isDigit = true) : 48 ≤ c.toNat ∧ c.toNat ≤ 57 := by
    obtain ⟨hfirst, hlast⟩ := Bool.and_eq_true_iff.mp h
    exact ⟨of_decide_eq_true hfirst, of_decide_eq_true hlast⟩
  simp only [isNamePart, Char.isAlphanum, Bool.or_eq_true, decide_eq_true_eq] at h
  rcases h with (h | h) | rfl
  · have := (halpha h).imp hupper hlower
    omega
  · have := hdigit h
    omega
  · decide

theorem isBlank_of_isNamePart (h : isNamePart c = true) : Text.isBlank c = false := by
  rw [← Bool.not_eq_true]
  intro hblank
  have hrange := toNat_of_isNamePart h
  simp only [Text.isBlank, Bool.or_eq_true, Bool.and_eq_true, decide_eq_true_eq,
    beq_iff_eq] at hblank
  omega

theorem isNamePart_of_isBlank (h : Text.isBlank c = true) : isNamePart c = false := by
  rw [← Bool.not_eq_true]
  intro hpart
  rw [isBlank_of_isNamePart hpart] at h
  cases h

/-- A name ends where a character follows that no name has. -/
theorem splitName?_of_isName (h : isName name = true)
    (hrest : ∀ c ∈ rest.head?, isNamePart c = false) :
    splitName? (name ++ rest) = some (name, rest) := by
  cases name with
  | nil => cases h
  | cons x name =>
    simp only [isName, Bool.and_eq_true, List.all_eq_true] at h
    have htake : rest.takeWhile isNamePart = [] ∧ rest.dropWhile isNamePart = rest := by
      cases rest with
      | nil => exact ⟨rfl, rfl⟩
      | cons c rest => simp [hrest c rfl]
    rw [List.cons_append, splitName?, if_pos h.1, List.takeWhile_append_of_pos h.2,
      List.dropWhile_append_of_pos h.2, htake.1, htake.2, List.append_nil]

theorem isName_of_splitName? (h : splitName? s = some (name, rest)) : isName name = true := by
  cases s with
  | nil => cases h
  | cons c s =>
    simp only [splitName?] at h
    split at h
    · next hstart =>
      obtain ⟨rfl, -⟩ := Prod.mk.inj (Option.some.inj h)
      simp only [isName, hstart, Bool.true_and]
      exact List.all_takeWhile
    · cases h

end IncludeTree.Variables
