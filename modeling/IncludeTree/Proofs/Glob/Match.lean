import IncludeTree.Disk.Path
import IncludeTree.Proofs.Glob.Language
import IncludeTree.Proofs.Glob.Reader
import IncludeTree.Proofs.Text.Utf8

/-!
# Slashes at the start of a pattern

A text is as much of a pattern with slashes at its start as without them (`isPattern_trimSlashes`),
but not the same pattern: with them it matches no path that starts with anything else
(`not_matches_slash`). Such a pattern is rooted: it starts with a token that stands for nothing but
what starts with a slash itself (`Token.Covers.head?_of_isRooted`).
-/

namespace IncludeTree.Glob

variable {path : List UInt8}

/-! ## Rooted patterns -/

/-- What a rooted token stands for starts with a slash. -/
theorem Token.Covers.head?_of_isRooted {t : Token} {part : List UInt8} (h : t.Covers part)
    (ht : t.isRooted) : part.head? = some slash := by
  cases t with
  | literal c =>
    obtain rfl : c = '/' := by simpa [Token.isRooted] using ht
    obtain rfl : part = [slash] := h
    rfl
  | trailingTree =>
    obtain ⟨within, rfl⟩ := h
    rfl
  | innerTree => rcases h with rfl | ⟨within, rfl⟩ <;> rfl
  | _ => simp [Token.isRooted] at ht

theorem matchesBytes_of_isRooted (h : path.head? ≠ some slash) {t : Token} (ht : t.isRooted)
    (tokens : List Token) : matchesBytes (t :: tokens) path = false := by
  rw [Bool.eq_false_iff, Ne, matchesBytes_iff]
  rintro (htree | ⟨first, later, rfl, hfirst, -⟩)
  · obtain rfl := (List.cons.inj htree).1
    cases ht
  · exact h (by rw [List.head?_append, hfirst.head?_of_isRooted ht, Option.some_or])

theorem head?_bytes_ne_slash {text : List Char} (h : text.head? ≠ some '/') :
    (Text.bytes text).head? ≠ some slash := by
  intro hslash
  obtain ⟨later, heq⟩ := List.head?_eq_some_iff.mp hslash
  obtain ⟨rest, rfl, -⟩ := Text.exists_cons_of_bytes_eq (c := '/') heq
  exact h rfl

/-! ## Texts as patterns -/

/-- Whether a text is a pattern. -/
def IsPattern (text : String) : Prop := ∃ tokens, parse text = .ok tokens

theorem isPattern_iff {text : String} :
    IsPattern text ↔ ((parse text).map fun _ => ()).isOk = true := by
  unfold IsPattern
  cases parse text with
  | ok tokens => simp [Except.map, Except.isOk, Except.toBool]
  | error fault => simp [Except.map, Except.isOk, Except.toBool]

instance (text : String) : Decidable (IsPattern text) := decidable_of_iff _ isPattern_iff.symm

/-- Whether a text is a pattern that matches a path. -/
def Matches (text path : String) : Prop :=
  ∃ tokens, parse text = .ok tokens ∧ matchesPath tokens path = true

theorem matches_iff {text path : String} :
    Matches text path ↔ (parse text).toOption.any (matchesPath · path) = true := by
  unfold Matches
  cases parse text with
  | ok tokens => simp [Except.toOption]
  | error fault => simp [Except.toOption]

instance (text path : String) : Decidable (Matches text path) := decidable_of_iff _ matches_iff.symm

theorem Matches.isPattern {text path : String} (h : Matches text path) : IsPattern text := by
  obtain ⟨tokens, hparse, -⟩ := h
  exact ⟨tokens, hparse⟩

/-- **Slashes at the start of a text make no difference to whether it is a pattern.** -/
theorem isPattern_trimSlashes {text : String} :
    IsPattern (Path.trimSlashes text) ↔ IsPattern text := by
  have hchars : ∀ chars : List Char, IsPattern (String.ofList (chars.dropWhile (· == '/'))) ↔
      IsPattern (String.ofList chars) := by
    intro chars
    induction chars with
    | nil => rfl
    | cons c chars ih =>
      by_cases hc : c = '/'
      · rw [hc, List.dropWhile_cons_of_pos (by decide), ih, isPattern_iff, isPattern_iff,
          parse_slash]
      · rw [List.dropWhile_cons_of_neg (by simpa using hc)]
  simpa [Path.trimSlashes] using hchars text.toList

/-- **A pattern that is written with a slash at its start matches no path without one.** -/
theorem not_matches_slash {text : List Char} {path : String} (h : path.toList.head? ≠ some '/') :
    ¬ Matches (String.ofList ('/' :: text)) path := by
  rintro ⟨tokens, hparse, hmatches⟩
  obtain ⟨first, later, rfl, hfirst⟩ := rooted_of_parse_slash hparse
  unfold matchesPath at hmatches
  rw [matchesBytes_of_isRooted (head?_bytes_ne_slash h) hfirst] at hmatches
  cases hmatches

end IncludeTree.Glob
