import IncludeTree.Condition.Evaluation

/-!
# Splitting at operators

`Condition.split` cuts a text where a character stands twice in a row outside quotations. The parts
give the text back (`intercalate_split`), and they are the ones that the text has been put together
from if each of them is `Plain` (`split_intercalate`): what is between its quotes is closed, and
outside them it is free of the character, so that there is no cut within it, and none that is moved
by what stands behind it (`split_append`).
-/

namespace IncludeTree.Condition

variable {c : Char} {s t text : List Char} {isOpen : Option Char} {parts : List (List Char)}

/-! ## One character -/

theorem consFirst_cons (x : Char) (part : List Char) (parts : List (List Char)) :
    consFirst x (part :: parts) = (x :: part) :: parts := rfl

theorem consFirst_ne_nil (x : Char) (parts : List (List Char)) : consFirst x parts ≠ [] := by
  cases parts <;> simp [consFirst]

/-- A quotation goes on at every character but the one that opened it. -/
theorem quoteAfter_some {quote x : Char} (h : x ≠ quote) :
    quoteAfter (some quote) x = some quote := if_neg h

theorem quoteAfter_none {x : Char} (h : isQuote x = false) : quoteAfter none x = none := by
  simp [quoteAfter, h]

theorem splitFrom_ne_nil (c : Char) (isOpen : Option Char) (s : List Char) :
    splitFrom c isOpen s ≠ [] := by
  fun_cases splitFrom c isOpen s with
  | case1 => simp
  | case2 => simp
  | case3 => simp
  | case4 => exact consFirst_ne_nil _ _

/-- A character that is not the one to split at, or is quoted, goes to the first part. -/
theorem splitFrom_cons {x : Char} (h : x ≠ c ∨ isOpen ≠ none) (s : List Char) :
    splitFrom c isOpen (x :: s) = consFirst x (splitFrom c (quoteAfter isOpen x) s) := by
  cases s with
  | nil => rfl
  | cons y s =>
    have hinside : ¬ (isOpen = none && !isQuote x && x = c && y = c) = true := by
      rcases h with h | h <;> simp [h]
    rw [splitFrom, if_neg hinside]

theorem split_operator (hc : isQuote c = false) (s : List Char) :
    split c (c :: c :: s) = [] :: split c s := by
  simp [split, splitFrom, hc]

/-! ## Plain texts -/

/-- A text that has a character only between quotes, and every quote closed. -/
inductive Plain (c : Char) : List Char → Prop where
  | nil : Plain c []
  | char {x s} :
      x ≠ c → isQuote x = false →
      Plain c s →
      Plain c (x :: s)
  | quotation {quote text s} :
      isQuote quote = true → quote ∉ text →
      Plain c s →
      Plain c (quote :: (text ++ quote :: s))

theorem Plain.append (hs : Plain c s) (ht : Plain c t) : Plain c (s ++ t) := by
  induction hs with
  | nil => exact ht
  | char hx hquote _ ih => exact ih.char hx hquote
  | quotation hquote htext _ ih =>
    rw [List.cons_append, List.append_assoc, List.cons_append]
    exact ih.quotation hquote htext

theorem plain_of_forall (h : ∀ x ∈ s, x ≠ c ∧ isQuote x = false) : Plain c s := by
  induction s with
  | nil => exact .nil
  | cons x s ih =>
    obtain ⟨hx, hs⟩ := List.forall_mem_cons.mp h
    exact (ih hs).char hx.1 hx.2

/-- A quotation goes to the first part up to its closing quote. -/
theorem splitFrom_quotation {quote : Char} (h : quote ∉ text) (s : List Char) :
    splitFrom c (some quote) (text ++ quote :: s) =
      text.foldr consFirst (consFirst quote (splitFrom c none s)) := by
  induction text with
  | nil => rw [List.nil_append, splitFrom_cons (.inr (by simp))]; simp [quoteAfter]
  | cons x text ih =>
    obtain ⟨hx, htext⟩ := not_or.mp (mt List.mem_cons.mpr h)
    rw [List.cons_append, splitFrom_cons (.inr (by simp)), quoteAfter_some (Ne.symm hx), ih htext]
    rfl

/-- A plain text at the start goes to the first part. -/
theorem split_append (hc : isQuote c = false) (hs : Plain c s) (t : List Char) :
    split c (s ++ t) = s.foldr consFirst (split c t) := by
  induction hs with
  | nil => rfl
  | @char x s hx hquote _ ih =>
    rw [List.cons_append, split, splitFrom_cons (.inl hx), quoteAfter_none hquote]
    exact congrArg (consFirst x) ih
  | @quotation quote text s hquote htext _ ih =>
    have hne : quote ≠ c := fun heq => by
      rw [heq, hc] at hquote
      cases hquote
    have hopen : quoteAfter none quote = some quote := by simp [quoteAfter, hquote]
    rw [List.cons_append, List.append_assoc, List.cons_append, split, splitFrom_cons (.inl hne),
      hopen, splitFrom_quotation htext, ← split, ih, List.foldr_cons, List.foldr_append,
      List.foldr_cons]

theorem foldr_consFirst (s part : List Char) (parts : List (List Char)) :
    s.foldr consFirst (part :: parts) = (s ++ part) :: parts := by
  induction s with
  | nil => rfl
  | cons x s ih => rw [List.foldr_cons, ih, consFirst_cons, List.cons_append]

/-! ## Parts and their text -/

theorem split_of_plain (hc : isQuote c = false) (hs : Plain c s) : split c s = [s] := by
  have hsplit := split_append hc hs []
  rw [List.append_nil] at hsplit
  rw [hsplit, split, splitFrom, foldr_consFirst, List.append_nil]

/-- Plain parts with operators between them are what the text is split into. -/
theorem split_intercalate (hc : isQuote c = false) (hne : parts ≠ [])
    (hparts : ∀ part ∈ parts, Plain c part) : split c ([c, c].intercalate parts) = parts := by
  induction parts with
  | nil => exact absurd rfl hne
  | cons part rest ih =>
    obtain ⟨hpart, hrest⟩ := List.forall_mem_cons.mp hparts
    cases rest with
    | nil => rw [List.intercalate_singleton, split_of_plain hc hpart]
    | cons next rest =>
      rw [List.intercalate_cons_cons, List.append_assoc, split_append hc hpart, List.cons_append,
        List.cons_append, List.nil_append, split_operator hc, foldr_consFirst, List.append_nil,
        ih (by simp) hrest]

theorem intercalate_consFirst (sep : List Char) (x : Char) (h : parts ≠ []) :
    sep.intercalate (consFirst x parts) = x :: sep.intercalate parts := by
  match parts with
  | [] => exact absurd rfl h
  | [part] => rw [consFirst_cons, List.intercalate_singleton, List.intercalate_singleton]
  | part :: next :: rest =>
    rw [consFirst_cons, List.intercalate_cons_cons, List.intercalate_cons_cons]
    rfl

/-- The parts of a text with operators between them are the text. -/
theorem intercalate_split (c : Char) (s : List Char) : [c, c].intercalate (split c s) = s := by
  have hfrom : ∀ isOpen, [c, c].intercalate (splitFrom c isOpen s) = s := fun isOpen => by
    fun_induction splitFrom c isOpen s with
    | case1 => rfl
    | case2 isOpen x => exact List.intercalate_singleton
    | case3 isOpen x y rest hoperator ih =>
      obtain ⟨part, parts, hsplit⟩ := List.exists_cons_of_ne_nil (splitFrom_ne_nil c none rest)
      rw [hsplit] at ih ⊢
      rw [List.intercalate_cons_cons, ih]
      simp only [Bool.and_eq_true, decide_eq_true_eq] at hoperator
      obtain ⟨⟨-, rfl⟩, rfl⟩ := hoperator
      rfl
    | case4 isOpen x y rest _ ih =>
      rw [intercalate_consFirst _ _ (splitFrom_ne_nil _ _ _), ih]
  exact hfrom none

end IncludeTree.Condition
