import IncludeTree.Proofs.Condition.Split

/-!
# Where a condition is cut

A text is `Closed` if every quotation in it has ended, and something `StandsOutside` quotations in
it if what is in front of that is closed. In these words `split` can be described without its loop:
it cuts a text at the first operator that stands outside quotations, and goes on behind it.

The loop does not start anew at each part. What it keeps is `CutFrom`, which takes the quotation
that is open in front of a text along to the first cut, where it has to have ended
(`cutFrom_splitFrom`). So every part but the last is closed (`CutFrom.dropLast`), and it makes no
difference to the quotations in a part whether it is read by itself or behind the parts in front of
it (`Closed.append_iff`, `closed_intercalate`).
-/

namespace IncludeTree.Condition

variable {c : Char} {s t : List Char} {isOpen : Option Char} {parts : List (List Char)}

/-! ## Closed texts -/

/-- A text in which every quotation has ended, at the first quote of the kind that it began with. -/
inductive Closed : List Char → Prop where
  | nil : Closed []
  | char {x s} : isQuote x = false → Closed s → Closed (x :: s)
  | quotation {quote text s} :
      isQuote quote = true → quote ∉ text → Closed s → Closed (quote :: (text ++ quote :: s))

/-- A text that stands in another outside quotations. -/
def StandsOutside (t s : List Char) : Prop :=
  ∃ before after, Closed before ∧ s = before ++ (t ++ after)

/-- The quotation that is open behind a text, if `isOpen` is the one that is open in front of it. -/
def quoteBehind (isOpen : Option Char) (s : List Char) : Option Char := s.foldl quoteAfter isOpen

theorem quoteBehind_some_of_not_mem {quote : Char} (h : quote ∉ s) :
    quoteBehind (some quote) s = some quote := by
  induction s with
  | nil => rfl
  | cons x s ih =>
    obtain ⟨hx, hs⟩ := not_or.mp (mt List.mem_cons.mpr h)
    rw [quoteBehind, List.foldl_cons, quoteAfter_some (Ne.symm hx)]
    exact ih hs

/-- A text behind which no quotation is open: the one that is open in front of it has ended, and the
rest is closed. -/
def ClosedFrom : Option Char → List Char → Prop
  | none, s => Closed s
  | some quote, s => ∃ text rest, quote ∉ text ∧ Closed rest ∧ s = text ++ quote :: rest

theorem closedFrom_of_quoteBehind (h : quoteBehind isOpen s = none) : ClosedFrom isOpen s := by
  induction s generalizing isOpen with
  | nil =>
    obtain rfl : isOpen = none := h
    exact .nil
  | cons x s ih =>
    have hrest : ClosedFrom (quoteAfter isOpen x) s := ih h
    cases isOpen with
    | none =>
      cases hx : isQuote x with
      | false =>
        rw [quoteAfter_none hx] at hrest
        exact .char hx hrest
      | true =>
        simp only [quoteAfter, hx, if_true] at hrest
        obtain ⟨text, rest, htext, hclosed, rfl⟩ := hrest
        exact .quotation hx htext hclosed
    | some quote =>
      by_cases hx : x = quote
      · simp only [quoteAfter, hx, if_true] at hrest
        exact ⟨[], s, by simp, hrest, by rw [hx, List.nil_append]⟩
      · rw [quoteAfter_some hx] at hrest
        obtain ⟨text, rest, htext, hclosed, rfl⟩ := hrest
        exact ⟨x :: text, rest, by simp [htext, Ne.symm hx], hclosed, rfl⟩

theorem quoteBehind_of_closed (h : Closed s) : quoteBehind none s = none := by
  induction h with
  | nil => rfl
  | char hx _ ih =>
    rw [quoteBehind, List.foldl_cons, quoteAfter_none hx]
    exact ih
  | @quotation quote text s hquote htext _ ih =>
    have hinside := quoteBehind_some_of_not_mem htext
    unfold quoteBehind at ih hinside ⊢
    rw [List.foldl_cons, List.foldl_append, List.foldl_cons]
    simp only [quoteAfter, hquote, if_true, hinside]
    exact ih

theorem closed_iff : Closed s ↔ quoteBehind none s = none :=
  ⟨quoteBehind_of_closed, closedFrom_of_quoteBehind⟩

instance : Decidable (Closed s) := decidable_of_iff (quoteBehind none s = none) closed_iff.symm

/-- Behind a closed text quotations are what they are by themselves. -/
theorem Closed.append_iff (hs : Closed s) : Closed (s ++ t) ↔ Closed t := by
  have hopen : quoteBehind none (s ++ t) = quoteBehind (quoteBehind none s) t := List.foldl_append
  rw [closed_iff, closed_iff, hopen, quoteBehind_of_closed hs]

theorem intercalate_append {before after : List (List Char)} (sep : List Char)
    (hbefore : before ≠ []) (hafter : after ≠ []) :
    sep.intercalate (before ++ after) =
      sep.intercalate before ++ (sep ++ sep.intercalate after) := by
  induction before with
  | nil => exact absurd rfl hbefore
  | cons part rest ih =>
    cases rest with
    | nil =>
      rw [List.singleton_append, List.intercalate_cons_of_ne_nil hafter, List.intercalate_singleton,
        List.append_assoc]
    | cons next rest =>
      have hrest := ih (by simp)
      rw [List.cons_append, List.intercalate_cons_of_ne_nil (by simp), hrest,
        List.intercalate_cons_cons]
      simp only [List.append_assoc]

/-- Closed parts with operators between them are closed. -/
theorem closed_intercalate (hc : isQuote c = false) (h : ∀ part ∈ parts, Closed part) :
    Closed ([c, c].intercalate parts) := by
  induction parts with
  | nil => exact .nil
  | cons part rest ih =>
    obtain ⟨hpart, hrest⟩ := List.forall_mem_cons.mp h
    cases rest with
    | nil =>
      rw [List.intercalate_singleton]
      exact hpart
    | cons next rest =>
      rw [List.intercalate_cons_cons, List.append_assoc]
      have hjoint : Closed ([c, c] ++ [c, c].intercalate (next :: rest)) :=
        .char hc (.char hc (ih hrest))
      exact hpart.append_iff.mpr hjoint

/-! ## Cuts -/

/-- A text that has no operator outside quotations, if `isOpen` is the quotation that is open in
front of it. -/
def Whole (c : Char) (isOpen : Option Char) (s : List Char) : Prop :=
  ∀ before after, s = before ++ ([c, c] ++ after) → quoteBehind isOpen before ≠ none

/-- The parts of a text that is cut at the first operator outside quotations, behind it again at the
first one, and so on. A part is whole even with the first half of the operator that it ends at. -/
inductive CutFrom (c : Char) : Option Char → List Char → List (List Char) → Prop where
  | last {isOpen : Option Char} {s : List Char} : Whole c isOpen s → CutFrom c isOpen s [s]
  | cut {isOpen : Option Char} {part rest : List Char} {parts : List (List Char)} :
      quoteBehind isOpen part = none → Whole c isOpen (part ++ [c]) →
      CutFrom c none rest parts →
      CutFrom c isOpen (part ++ ([c, c] ++ rest)) (part :: parts)

theorem whole_iff : Whole c none s ↔ ¬ StandsOutside [c, c] s := by
  constructor
  · rintro h ⟨before, after, hbefore, hs⟩
    exact h before after hs (closed_iff.mp hbefore)
  · intro h before after hs hopen
    exact h ⟨before, after, closed_iff.mpr hopen, hs⟩

theorem whole_of_length_lt (h : s.length < 2) : Whole c isOpen s := by
  rintro before after rfl
  simp at h
  omega

theorem Whole.of_append (h : Whole c isOpen (s ++ t)) : Whole c isOpen s := by
  rintro before after rfl
  exact h before (after ++ t) (by simp)

/-- A character in front of a text makes no operator with it unless it is the first half of one. -/
theorem Whole.cons {x : Char} (h : Whole c (quoteAfter isOpen x) s)
    (hhead : isOpen = none → x = c → s.head? ≠ some c) : Whole c isOpen (x :: s) := by
  intro before after hs
  cases before with
  | nil =>
    obtain ⟨rfl, rfl⟩ := List.cons.inj hs
    intro hopen
    exact hhead hopen rfl rfl
  | cons y before =>
    obtain ⟨rfl, hrest⟩ := List.cons.inj hs
    exact h before after hrest

theorem CutFrom.cons {x : Char} (h : CutFrom c (quoteAfter isOpen x) s parts)
    (hhead : isOpen = none → x = c → s.head? ≠ some c) :
    CutFrom c isOpen (x :: s) (consFirst x parts) := by
  cases h with
  | last hwhole => exact .last (hwhole.cons hhead)
  | @cut _ part rest parts hclosed hwhole hrest =>
    have hpart : Whole c isOpen (x :: (part ++ [c])) := by
      apply hwhole.cons
      intro hopen hx
      cases part with
      | nil => exact absurd rfl (hhead hopen hx)
      | cons y part => exact hhead hopen hx
    have hcut : CutFrom c isOpen ((x :: part) ++ ([c, c] ++ rest)) ((x :: part) :: parts) :=
      .cut hclosed hpart hrest
    exact hcut

/-- What the loop keeps, from whatever quotation it starts in. -/
theorem cutFrom_splitFrom (hc : isQuote c = false) (isOpen : Option Char) (s : List Char) :
    CutFrom c isOpen s (splitFrom c isOpen s) := by
  fun_induction splitFrom c isOpen s with
  | case1 isOpen => exact .last (whole_of_length_lt (by simp))
  | case2 isOpen x => exact .last (whole_of_length_lt (by simp))
  | case3 isOpen x y rest hoperator ih =>
    simp only [Bool.and_eq_true, decide_eq_true_eq] at hoperator
    obtain ⟨⟨⟨rfl, -⟩, rfl⟩, rfl⟩ := hoperator
    have hcut : CutFrom y none ([] ++ ([y, y] ++ rest)) ([] :: splitFrom y none rest) :=
      .cut rfl (whole_of_length_lt (by simp)) ih
    exact hcut
  | case4 isOpen x y rest hoperator ih =>
    apply ih.cons
    rintro rfl rfl hy
    obtain rfl : y = x := Option.some.inj hy
    exact hoperator (by simp [hc])

theorem CutFrom.ne_nil (h : CutFrom c isOpen s parts) : parts ≠ [] := by
  cases h with
  | last _ => simp
  | cut _ _ _ => simp

theorem CutFrom.whole (h : CutFrom c none s parts) : ∀ part ∈ parts, Whole c none part := by
  generalize hopen : none = isOpen at h
  induction h with
  | last hwhole =>
    subst hopen
    simpa using hwhole
  | cut _ hwhole _ ih =>
    subst hopen
    exact List.forall_mem_cons.mpr ⟨hwhole.of_append, ih rfl⟩

/-- Every part but the last ends at the first operator that is met outside quotations. -/
theorem CutFrom.dropLast (h : CutFrom c none s parts) :
    ∀ part ∈ parts.dropLast, Closed part ∧ Whole c none (part ++ [c]) := by
  generalize hopen : none = isOpen at h
  induction h with
  | last _ => simp
  | cut hclosed hwhole hrest ih =>
    subst hopen
    rw [List.dropLast_cons_of_ne_nil hrest.ne_nil]
    exact List.forall_mem_cons.mpr ⟨⟨closed_iff.mpr hclosed, hwhole⟩, ih rfl⟩

end IncludeTree.Condition
