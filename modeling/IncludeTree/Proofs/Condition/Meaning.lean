import IncludeTree.Proofs.Condition.Clause
import IncludeTree.Proofs.Lists.Forall2

/-!
# What a condition means

A condition is a disjunction of conjunctions of clauses: `Condition.WrittenAs` says how it is
written, and `Condition.Holds` when it holds.

`evaluate_writtenAs` says that a text which is written as a condition evaluates to whether the
condition holds. No part of it is lost on the way: the text is cut at its operators and nowhere else
(`JoinedAs.split`), since a clause is plain with regard to both of them (`plain_of_paddedIn`), and
from each part its clause is read (`read_trim_eq_ok`).
-/

namespace IncludeTree.Condition

variable {vars : Variables} {clause : Clause} {clauses : List Clause}
  {alternatives : List (List Clause)} {c : Char} {s t name : List Char} {parts : List (List Char)}
  {operand : Operand} {written written' : Operand → List Char → Prop}

/-! ## Conditions that hold -/

/-- When a clause holds: a variable is present if it is bound to a text that is not empty, and in a
comparison an unbound variable equals `null` and no text. -/
def Clause.Holds (vars : Variables) : Clause → Prop
  | present name => ∃ value, vars.get? name = some value ∧ value ≠ ""
  | compare name true operand => vars.get? name = operand.value vars
  | compare name false operand => vars.get? name ≠ operand.value vars

theorem Clause.holds_iff : clause.holds vars = true ↔ clause.Holds vars := by
  cases clause with
  | present name => cases h : vars.get? name <;> simp [holds, Holds, h]
  | compare name equal operand => cases equal <;> simp [holds, Holds]

instance : Decidable (clause.Holds vars) := decidable_of_iff _ Clause.holds_iff

/-- When a condition holds. -/
def Holds (vars : Variables) (alternatives : List (List Clause)) : Prop :=
  ∃ clauses ∈ alternatives, ∀ clause ∈ clauses, clause.Holds vars

instance : Decidable (Holds vars alternatives) :=
  inferInstanceAs (Decidable (∃ clauses ∈ alternatives, ∀ clause ∈ clauses, clause.Holds vars))

/-! ## The grammar -/

/-- How things, at least one, are written with an operator between each two. -/
def JoinedAs {α : Type} (c : Char) (written : α → List Char → Prop) (as : List α)
    (s : List Char) : Prop :=
  as ≠ [] ∧ ∃ parts, List.Forall₂ written as parts ∧ s = [c, c].intercalate parts

/-- How a condition is written. -/
def WrittenAs (alternatives : List (List Clause)) (s : List Char) : Prop :=
  JoinedAs '|' (JoinedAs '&' (Clause.PaddedIn Operand.WrittenAs)) alternatives s

theorem Clause.PaddedIn.mono (hle : ∀ operand t, written operand t → written' operand t)
    (h : clause.PaddedIn written s) : clause.PaddedIn written' s := by
  obtain ⟨before, t, after, hbefore, hafter, hclause, rfl⟩ := h
  refine ⟨before, t, after, hbefore, hafter, ?_, rfl⟩
  cases hclause with
  | present hname => exact .present hname
  | compare hname hgap hgap' hoperand => exact .compare hname hgap hgap' (hle _ _ hoperand)

/-! ## Clauses are plain -/

/-- The characters that the operators between clauses are made of. -/
def IsJoint (c : Char) : Prop := c = '&' ∨ c = '|'

theorem IsJoint.isQuote (h : IsJoint c) : isQuote c = false := by
  rcases h with rfl | rfl <;> rfl

/-- A text is plain if its characters are of a kind that no joint and no quote is of. -/
theorem plain_of_kind {kind : Char → Bool} (h : ∀ x ∈ s, kind x = true) (hjoint : kind c = false)
    (hdouble : kind '"' = false) (hsingle : kind '\'' = false) : Plain c s := by
  refine plain_of_forall fun x hx => ⟨?_, ?_⟩
  · rintro rfl
    rw [h x hx] at hjoint
    cases hjoint
  · rw [← Bool.not_eq_true, isQuote_iff]
    rintro (rfl | rfl)
    · rw [h _ hx] at hdouble
      cases hdouble
    · rw [h _ hx] at hsingle
      cases hsingle

theorem plain_of_allBlank (hc : IsJoint c) (h : Text.AllBlank s) : Plain c s :=
  plain_of_kind h (by rcases hc with rfl | rfl <;> decide) (by decide) (by decide)

theorem plain_variable (hc : IsJoint c) (h : Variables.isName name = true) :
    Plain c ('$' :: name) := by
  have hname : Plain c name :=
    plain_of_kind (fun _ hx => Variables.isNamePart_of_mem h hx)
      (by rcases hc with rfl | rfl <;> decide) (by decide) (by decide)
  exact hname.char (by rcases hc with rfl | rfl <;> decide) (by decide)

theorem plain_operator (hc : IsJoint c) (equal : Bool) : Plain c (operator equal) := by
  refine plain_of_forall ?_
  rcases hc with rfl | rfl <;> cases equal <;> simp [operator, isQuote]

theorem plain_operand (hc : IsJoint c) (h : Operand.WrittenAs operand t) : Plain c t := by
  cases h with
  | null =>
    refine plain_of_forall ?_
    rcases hc with rfl | rfl <;> simp [isQuote]
  | named hname => exact plain_variable hc hname
  | literal hquote hown _ => exact .quotation hquote hown .nil

theorem plain_of_paddedIn (hc : IsJoint c) (h : clause.PaddedIn Operand.WrittenAs s) :
    Plain c s := by
  obtain ⟨before, t, after, hbefore, hafter, hclause, rfl⟩ := h
  have ht : Plain c t := by
    cases hclause with
    | present hname => exact plain_variable hc hname
    | compare hname hgap hgap' hoperand =>
      rw [← List.cons_append]
      exact (plain_variable hc hname).append <| (plain_of_allBlank hc hgap).append <|
        (plain_operator hc _).append <| (plain_of_allBlank hc hgap').append <|
        plain_operand hc hoperand
  exact (plain_of_allBlank hc hbefore).append (ht.append (plain_of_allBlank hc hafter))

theorem plain_intercalate {sep : List Char} (hsep : Plain c sep)
    (h : ∀ part ∈ parts, Plain c part) : Plain c (sep.intercalate parts) := by
  induction parts with
  | nil => exact .nil
  | cons part rest ih =>
    obtain ⟨hpart, hrest⟩ := List.forall_mem_cons.mp h
    cases rest with
    | nil => rwa [List.intercalate_singleton]
    | cons next rest =>
      rw [List.intercalate_cons_cons]
      exact (hpart.append hsep).append (ih hrest)

/-! ## Joined texts -/

section joined

variable {α : Type} {spelled : α → List Char → Prop} {as : List α}

/-- What has been joined is what the text is split into. -/
theorem JoinedAs.split (h : JoinedAs c spelled as s) (hc : IsJoint c)
    (hplain : ∀ a part, spelled a part → Plain c part) : List.Forall₂ spelled as (split c s) := by
  obtain ⟨hne, parts, hparts, rfl⟩ := h
  have hsome : parts ≠ [] := by
    rintro rfl
    exact hne (List.forall₂_nil_right_iff.mp hparts)
  rwa [split_intercalate hc.isQuote hsome (forall_mem_of_forall₂ hparts hplain)]

theorem JoinedAs.plain {joint : Char} (h : JoinedAs joint spelled as s) (hjoint : IsJoint joint)
    (hne : joint ≠ c) (hplain : ∀ a part, spelled a part → Plain c part) : Plain c s := by
  obtain ⟨-, parts, hparts, rfl⟩ := h
  have hsep : Plain c [joint, joint] :=
    (Plain.nil.char hne hjoint.isQuote).char hne hjoint.isQuote
  exact plain_intercalate hsep (forall_mem_of_forall₂ hparts hplain)

/-- A character that every part has is in the text. -/
theorem JoinedAs.mem (h : JoinedAs c spelled as s) {x : Char}
    (hx : ∀ a part, spelled a part → x ∈ part) : x ∈ s := by
  obtain ⟨hne, parts, hparts, rfl⟩ := h
  cases hparts with
  | nil => exact absurd rfl hne
  | @cons a part as rest hpart hrest =>
    cases rest with
    | nil =>
      rw [List.intercalate_singleton]
      exact hx a part hpart
    | cons next rest =>
      rw [List.intercalate_cons_cons, List.append_assoc]
      exact List.mem_append_left _ (hx a part hpart)

end joined

theorem dollar_mem_of_paddedIn (h : clause.PaddedIn written s) : '$' ∈ s := by
  obtain ⟨before, t, after, -, -, hclause, rfl⟩ := h
  have ht : '$' ∈ t := by cases hclause <;> simp
  simp [ht]

/-- The clauses of an alternative are what it is split into. -/
theorem split_alternative (h : JoinedAs '&' (Clause.PaddedIn Operand.WrittenAs) clauses s) :
    List.Forall₂ (Clause.PaddedIn Operand.WrittenAs) clauses (split '&' s) :=
  h.split (.inl rfl) fun _ _ => plain_of_paddedIn (.inl rfl)

/-- The alternatives of a condition are what it is split into. -/
theorem WrittenAs.split (h : WrittenAs alternatives s) :
    List.Forall₂ (JoinedAs '&' (Clause.PaddedIn Operand.WrittenAs)) alternatives
      (Condition.split '|' s) :=
  JoinedAs.split h (.inr rfl) fun _ _ hclauses =>
    hclauses.plain (.inl rfl) (by decide) fun _ _ => plain_of_paddedIn (.inr rfl)

/-! ## Evaluation -/

theorem allHold_of_forall₂ (vars : Variables)
    (h : List.Forall₂ (Clause.PaddedIn Operand.WrittenAs) clauses parts) :
    allHold vars parts = .ok (decide (∀ clause ∈ clauses, clause.Holds vars)) := by
  induction h with
  | nil => simp [allHold]
  | @cons clause part clauses parts hclause _ ih =>
    have hread : Clause.read (Text.trim part) = .ok clause :=
      read_trim_eq_ok.mpr (hclause.mono fun _ _ => .written)
    simp only [allHold, hread]
    by_cases hholds : clause.Holds vars
    · rw [if_pos (Clause.holds_iff.mpr hholds), ih]
      simp [hholds]
    · rw [if_neg (mt Clause.holds_iff.mp hholds)]
      simp [hholds]

theorem anyHolds_of_forall₂ (vars : Variables)
    (h : List.Forall₂ (JoinedAs '&' (Clause.PaddedIn Operand.WrittenAs)) alternatives parts) :
    anyHolds vars parts = .ok (decide (Holds vars alternatives)) := by
  induction h with
  | nil => simp [anyHolds, Holds]
  | @cons clauses part alternatives parts hclauses _ ih =>
    have hall := allHold_of_forall₂ vars (split_alternative hclauses)
    by_cases hholds : ∀ clause ∈ clauses, clause.Holds vars
    · have hsome : Holds vars (clauses :: alternatives) := ⟨clauses, by simp, hholds⟩
      rw [decide_eq_true hholds] at hall
      simp only [anyHolds, hall, decide_eq_true hsome]
    · have hrest : Holds vars (clauses :: alternatives) ↔ Holds vars alternatives := by
        simp [Holds, hholds]
      rw [decide_eq_false hholds] at hall
      simp only [anyHolds, hall, ih, decide_eq_decide.mpr hrest]

/-- **A condition evaluates to what it means.** Whatever the variables are, a text that is written
as a condition, with any blanks around its clauses and their operators, evaluates to whether one of
its alternatives has no clause that fails to hold. -/
theorem evaluate_writtenAs (vars : Variables) (text : String)
    (h : WrittenAs alternatives text.toList) :
    evaluate vars text = .ok (decide (Holds vars alternatives)) := by
  have hdollar : '$' ∈ text.toList := h.mem fun _ _ hclauses => hclauses.mem fun _ _ =>
    dollar_mem_of_paddedIn
  have hblank : Text.isBlankText text = false := by
    rw [← Bool.not_eq_true, Text.isBlankText, List.all_eq_true]
    exact fun hall => by cases hall _ hdollar
  unfold evaluate
  rw [hblank]
  exact anyHolds_of_forall₂ vars h.split

theorem evaluate_writtenAs_sample :
    WrittenAs
        [[.compare "A" true (.literal "x && \"y\"")], [.present "B", .compare "C" false .null]]
        "$A == 'x && \"y\"'||$B && $C!=null".toList ∧
      evaluate (.ofList [("B", "1"), ("C", "")]) "$A == 'x && \"y\"'||$B && $C!=null" =
        .ok true := by
  have hblank : Text.AllBlank [' '] := by decide
  have hnone : Text.AllBlank [] := by decide
  have hliteral : Operand.WrittenAs (.literal "x && \"y\"") "'x && \"y\"'".toList :=
    .literal rfl (by decide) (by decide)
  have hfirst : Clause.PaddedIn Operand.WrittenAs (.compare "A" true (.literal "x && \"y\""))
      "$A == 'x && \"y\"'".toList :=
    ⟨[], _, [], hnone, hnone, .compare rfl hblank hblank hliteral, rfl⟩
  have hsecond : Clause.PaddedIn Operand.WrittenAs (.present "B") "$B ".toList :=
    ⟨[], _, [' '], hnone, hblank, .present rfl, rfl⟩
  have hthird : Clause.PaddedIn Operand.WrittenAs (.compare "C" false .null) " $C!=null".toList :=
    ⟨[' '], _, [], hblank, hnone, .compare rfl hnone hnone .null, rfl⟩
  have hwritten : WrittenAs _ "$A == 'x && \"y\"'||$B && $C!=null".toList :=
    ⟨by simp, _, .cons ⟨by simp, _, .cons hfirst .nil, rfl⟩
      (.cons ⟨by simp, _, .cons hsecond (.cons hthird .nil), rfl⟩ .nil), rfl⟩
  refine ⟨hwritten, (evaluate_writtenAs _ _ hwritten).trans ?_⟩
  decide

end IncludeTree.Condition
