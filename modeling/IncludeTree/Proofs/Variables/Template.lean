import IncludeTree.Proofs.Variables.Expansion
import Mathlib.Data.List.Infix

/-!
# Texts as templates

A template is a text that is put together from pieces: literals, and names written as placeholders
in one of three forms (`Form.write`). Pieces that no name runs into (`Template`) are told apart
again when the text is read, whatever stands next to what: a placeholder ends with its piece
(`placeholder?_write`), and no literal holds a mark. So such a text is expanded piece by piece, and
what a name stands for is put in as it is; a text in which no placeholder is written is plain
(`plain_iff_no_placeholder`) and stays as it is (`expand_template`).
-/

namespace IncludeTree.Variables

variable {vars : Variables} {s name rest : List Char} {c : Char}

/-- The ways to write a placeholder. -/
inductive Form where
  /-- Behind a dollar sign. -/
  | dollar
  /-- Behind a dollar sign, in braces. -/
  | braces
  /-- Between percent signs. -/
  | percents
deriving DecidableEq, Repr

/-- The placeholder of a name. -/
def Form.write : Form → List Char → List Char
  | dollar, name => '$' :: name
  | braces, name => '$' :: '{' :: (name ++ ['}'])
  | percents, name => '%' :: (name ++ ['%'])

/-- A piece of a template. -/
inductive Piece where
  /-- A text that stands for itself. -/
  | literal (text : List Char)
  /-- A name that stands for its value. -/
  | placeholder (form : Form) (name : List Char)
deriving DecidableEq, Repr

namespace Piece

/-- How a piece is written. -/
def write : Piece → List Char
  | literal text => text
  | placeholder form name => form.write name

/-- What a piece stands for. -/
def value (vars : Variables) : Piece → List Char
  | literal text => text
  | placeholder _ name => vars.value name

/-- Whether pieces start with a literal that a name in front of them would run into. An empty
literal keeps nothing apart. -/
def goesOn : List Piece → Bool
  | [] => false
  | literal [] :: rest => goesOn rest
  | literal (c :: _) :: _ => isNamePart c
  | placeholder _ _ :: _ => false

end Piece

/-- Whether pieces make up a template: literals without the marks of placeholders, and placeholders
of names, where no name behind a dollar sign alone runs into a literal. -/
inductive Template : List Piece → Prop where
  | nil : Template []
  | literal {text : List Char} {pieces : List Piece} :
      '$' ∉ text → '%' ∉ text → Template pieces → Template (.literal text :: pieces)
  | placeholder {form : Form} {name : List Char} {pieces : List Piece} :
      isName name = true → (form = .dollar → Piece.goesOn pieces = false) → Template pieces →
      Template (.placeholder form name :: pieces)

/-! ## Placeholders -/

/-- A placeholder is read as far as it is written, if no name runs into what follows. -/
theorem placeholder?_write {form : Form} (hname : isName name = true)
    (hrest : form = .dollar → ∀ c ∈ rest.head?, isNamePart c = false) :
    placeholder? (form.write name ++ rest) = some (name, rest) := by
  cases form with
  | dollar =>
    have hsplit := splitName?_of_isName hname (hrest rfl)
    show placeholder? ('$' :: (name ++ rest)) = _
    unfold placeholder?
    split
    · next hbrace =>
      -- no name starts with a brace
      rw [(List.cons.inj hbrace).2] at hsplit
      cases hsplit
    · next hdollar => rwa [← (List.cons.inj hdollar).2]
    · next hpercent => exact absurd (List.cons.inj hpercent).1 (by decide)
    · next hno _ => exact absurd rfl (hno (name ++ rest))
  | braces =>
    have hsplit : splitName? (name ++ ('}' :: rest)) = some (name, '}' :: rest) :=
      splitName?_of_isName hname (by simp; decide)
    simp [Form.write, placeholder?, closedName?, hsplit]
  | percents =>
    have hsplit : splitName? (name ++ ('%' :: rest)) = some (name, '%' :: rest) :=
      splitName?_of_isName hname (by simp; decide)
    simp [Form.write, placeholder?, closedName?, hsplit]

theorem eq_of_closedName? {closing : Char} (h : closedName? closing s = some (name, rest)) :
    isName name = true ∧ s = name ++ closing :: rest := by
  unfold closedName? at h
  split at h
  · next hsplit =>
    split at h
    · next heq =>
      obtain ⟨rfl, rfl⟩ := Prod.mk.inj (Option.some.inj h)
      exact ⟨isName_of_splitName? hsplit, by rw [← heq, splitName?_append hsplit]⟩
    · cases h
  · cases h

/-- What is read as a placeholder is one. -/
theorem exists_form_of_placeholder? (h : placeholder? s = some (name, rest)) :
    isName name = true ∧ ∃ form : Form, s = form.write name ++ rest := by
  unfold placeholder? at h
  split at h
  · obtain ⟨hname, rfl⟩ := eq_of_closedName? h
    exact ⟨hname, .braces, by simp [Form.write]⟩
  · exact ⟨isName_of_splitName? h, .dollar, by simp [Form.write, splitName?_append h]⟩
  · obtain ⟨hname, rfl⟩ := eq_of_closedName? h
    exact ⟨hname, .percents, by simp [Form.write]⟩
  · cases h

/-- A text that starts with what is written for a name starts with a placeholder, though perhaps for
a longer name. -/
theorem placeholder?_write_ne_none {form : Form} (hname : isName name = true) (rest : List Char) :
    placeholder? (form.write name ++ rest) ≠ none := by
  by_cases hform : form = .dollar
  · subst hform
    cases name with
    | nil => cases hname
    | cons x name =>
      have hstart : isNameStart x = true := (Bool.and_eq_true_iff.mp hname).1
      have hbrace : x ≠ '{' := by
        rintro rfl
        cases hstart
      simp [Form.write, placeholder?, splitName?, hstart, hbrace]
  · rw [placeholder?_write hname fun h => absurd h hform]
    exact Option.some_ne_none _

/-- A text is plain if no name is written in it as a placeholder. -/
theorem plain_iff_no_placeholder : Plain s ↔
    ∀ (form : Form) (name : List Char), isName name = true → ¬ form.write name <:+: s := by
  constructor
  · rintro h form name hname ⟨before, rest, rfl⟩
    have hsuffix : form.write name ++ rest <:+ before ++ form.write name ++ rest := by
      rw [List.append_assoc]
      exact List.suffix_append _ _
    exact placeholder?_write_ne_none hname rest (h _ hsuffix)
  · intro h t ht
    cases hread : placeholder? t with
    | none => rfl
    | some found =>
      obtain ⟨hname, form, rfl⟩ := exists_form_of_placeholder? hread
      have hwithin : form.write found.1 <:+: form.write found.1 ++ found.2 :=
        (List.prefix_append _ _).isInfix
      exact absurd (hwithin.trans ht.isInfix) (h form found.1 hname)

instance : Decidable (Plain s) :=
  decidable_of_iff (∀ t ∈ s.tails, placeholder? t = none) (by simp [Plain])

/-! ## Templates -/

theorem isNamePart_of_head?_write {form : Form} (h : (form.write name).head? = some c) :
    isNamePart c = false := by
  cases form <;> obtain rfl := Option.some.inj h <;> decide

/-- Where no literal goes on with a name, no name runs into the text. -/
theorem isNamePart_of_head?_of_goesOn {pieces : List Piece} (h : Piece.goesOn pieces = false)
    (hc : c ∈ (pieces.flatMap Piece.write).head?) : isNamePart c = false := by
  induction pieces with
  | nil => cases hc
  | cons piece pieces ih =>
    match piece with
    | .literal [] => exact ih h hc
    | .literal (x :: text) =>
      obtain rfl := Option.some.inj hc
      exact h
    | .placeholder form name =>
      have hmark : (form.write name).head? = some c := by
        rw [List.flatMap_cons, List.head?_append] at hc
        cases form <;> exact hc
      exact isNamePart_of_head?_write hmark

/-- A text without marks is copied. -/
theorem expandChars_append_of_no_mark (vars : Variables) (hdollar : '$' ∉ s) (hpercent : '%' ∉ s) :
    vars.expandChars (s ++ rest) = s ++ vars.expandChars rest := by
  induction s with
  | nil => rfl
  | cons c s ih =>
    rw [List.mem_cons, not_or] at hdollar hpercent
    have hnone : placeholder? (c :: (s ++ rest)) = none :=
      placeholder?_cons_of_no_mark (Ne.symm hdollar.1) (Ne.symm hpercent.1)
    rw [List.cons_append, expandChars_cons hnone, ih hdollar.2 hpercent.2, List.cons_append]

theorem Template.expandChars_write {pieces : List Piece} (h : Template pieces) :
    vars.expandChars (pieces.flatMap Piece.write) = pieces.flatMap (Piece.value vars) := by
  induction h with
  | nil => exact expandChars_nil vars
  | literal hdollar hpercent _ ih =>
    rw [List.flatMap_cons, List.flatMap_cons, ← ih]
    exact expandChars_append_of_no_mark vars hdollar hpercent
  | placeholder hname hgoesOn _ ih =>
    rw [List.flatMap_cons, List.flatMap_cons, ← ih]
    exact expandChars_of_placeholder (placeholder?_write hname fun hform _ hc =>
      isNamePart_of_head?_of_goesOn (hgoesOn hform) hc)

/-- **A template is expanded piece by piece**: literals are copied and names replaced by what they
stand for, which is not read again. A text in which nothing is written as a placeholder stays as it
is. -/
theorem expand_template (vars : Variables) :
    (∀ pieces : List Piece, Template pieces →
      vars.expand (String.ofList (pieces.flatMap Piece.write)) =
        String.ofList (pieces.flatMap (Piece.value vars))) ∧
    ∀ text : String,
      (∀ (form : Form) (name : List Char), isName name = true →
        ¬ form.write name <:+: text.toList) →
      vars.expand text = text := by
  refine ⟨fun pieces h => ?_, fun text h => expand_of_plain vars (plain_iff_no_placeholder.mpr h)⟩
  rw [expand, String.toList_ofList, h.expandChars_write]

/-- Placeholders of all forms side by side, whose values look like placeholders or which have none,
and a text with marks but no placeholder. -/
theorem expand_template_sideBySide :
    let vars : Variables := .ofList [("A", "$B"), ("B", "%A%")]
    vars.expand "x\x7b$A%B%%A%$\x7bC\x7d$C-$\x7bB\x7d1" = "x\x7b$B%A%$B-%A%1" ∧
      vars.expand "100%% $\x7bA-\x7d $1 %A $" = "100%% $\x7bA-\x7d $1 %A $" := by
  intro vars
  let pieces : List Piece :=
    [.literal ['x', '{'], .placeholder .dollar ['A'], .placeholder .percents ['B'],
      .placeholder .percents ['A'], .placeholder .braces ['C'], .placeholder .dollar ['C'],
      .literal ['-'], .placeholder .braces ['B'], .literal ['1']]
  have htemplate : Template pieces := by
    refine .literal (by decide) (by decide) (.placeholder (by decide) (fun _ => rfl) ?_)
    refine .placeholder (by decide) nofun (.placeholder (by decide) nofun ?_)
    refine .placeholder (by decide) nofun (.placeholder (by decide) (fun _ => by decide) ?_)
    refine .literal (by decide) (by decide) (.placeholder (by decide) nofun ?_)
    exact .literal (by decide) (by decide) .nil
  have hwritten : String.ofList (pieces.flatMap Piece.write) =
      "x\x7b$A%B%%A%$\x7bC\x7d$C-$\x7bB\x7d1" := by decide
  have hvalue : String.ofList (pieces.flatMap (Piece.value vars)) = "x\x7b$B%A%$B-%A%1" := by
    decide
  have hmarks : Plain "100%% $\x7bA-\x7d $1 %A $".toList := by decide
  obtain ⟨hpieces, hplain⟩ := expand_template vars
  refine ⟨?_, hplain _ (plain_iff_no_placeholder.mp hmarks)⟩
  rw [← hwritten, hpieces pieces htemplate, hvalue]

end IncludeTree.Variables
