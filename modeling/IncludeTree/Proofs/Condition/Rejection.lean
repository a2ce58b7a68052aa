import IncludeTree.Proofs.Condition.Meaning
import IncludeTree.Proofs.Decision.First

/-!
# Which texts are rejected

A text is no condition if one of its parts is no clause (`exists_writtenAs_iff`). Yet evaluation is
not there to find that out: it goes from left to right, stops as soon as the outcome is known, and
takes quotations by their ends. `rejected_iff` says what it rejects: the texts in which a part that
is not even read as a clause is come to.

Whether a part is come to depends on the variables, and so does whether the text is rejected
(`malformed_not_rejected`).
-/

namespace IncludeTree.Condition

variable {vars : Variables} {clause : Clause} {c : Char} {s : List Char} {parts : List (List Char)}
  {text : String} {written : Operand → List Char → Prop}

/-! ## Loops as searches for the first that decides -/

/-- Whether the clause that a text is read as fails to hold. -/
def refutes (vars : Variables) (s : List Char) : Except Fault Bool :=
  (Clause.read (Text.trim s)).map fun clause => !clause.holds vars

theorem allHold_eq (vars : Variables) (parts : List (List Char)) :
    allHold vars parts = (parts.findM? (refutes vars)).map Option.isNone := by
  induction parts with
  | nil => rfl
  | cons s rest ih =>
    unfold allHold
    rcases h : Clause.read (Text.trim s) with e | clause
    · have hrefutes : refutes vars s = .error e := by simp only [refutes, h, Except.map]
      rw [findM?_cons_of_error hrefutes]
      rfl
    · have hrefutes : refutes vars s = .ok (!clause.holds vars) := by
        simp only [refutes, h, Except.map]
      dsimp only
      cases hholds : clause.holds vars with
      | true =>
        rw [hholds] at hrefutes
        rw [findM?_cons_of_false hrefutes]
        exact ih
      | false =>
        rw [hholds] at hrefutes
        rw [findM?_cons_of_true hrefutes]
        rfl

theorem anyHolds_eq (vars : Variables) (parts : List (List Char)) :
    anyHolds vars parts =
      (parts.findM? fun s => allHold vars (split '&' s)).map Option.isSome := by
  induction parts with
  | nil => rfl
  | cons s rest ih =>
    rcases h : allHold vars (split '&' s) with e | ⟨_ | _⟩
    · rw [findM?_cons_of_error (p := fun s => allHold vars (split '&' s)) h]
      simp only [anyHolds, h]
      rfl
    · rw [findM?_cons_of_false (p := fun s => allHold vars (split '&' s)) h, ← ih]
      simp only [anyHolds, h]
    · rw [findM?_cons_of_true (p := fun s => allHold vars (split '&' s)) h]
      simp only [anyHolds, h]
      rfl

/-! ## What is come to -/

/-- A text that is read as a clause which holds. -/
def ReadAsTrue (vars : Variables) (s : List Char) : Prop :=
  ∃ clause : Clause, clause.PaddedIn Operand.ReadFrom s ∧ clause.Holds vars

/-- A text that is read as a clause which does not hold. -/
def ReadAsFalse (vars : Variables) (s : List Char) : Prop :=
  ∃ clause : Clause, clause.PaddedIn Operand.ReadFrom s ∧ ¬ clause.Holds vars

/-- A text that is not read as a clause. -/
def Unreadable (s : List Char) : Prop := ∀ clause : Clause, ¬ clause.PaddedIn Operand.ReadFrom s

/-- An alternative is false: the clauses hold up to one that does not, and what stands behind that
one may be anything. -/
def Fails (vars : Variables) (alternative : List Char) : Prop :=
  ∃ before part after, split '&' alternative = before ++ part :: after ∧
    (∀ b ∈ before, ReadAsTrue vars b) ∧ ReadAsFalse vars part

/-- An alternative is malformed where it is read: the clauses hold up to a part that is not read as
a clause. -/
def Breaks (vars : Variables) (alternative : List Char) : Prop :=
  ∃ before part after, split '&' alternative = before ++ part :: after ∧
    (∀ b ∈ before, ReadAsTrue vars b) ∧ Unreadable part

theorem refutes_of_paddedIn (vars : Variables) (h : clause.PaddedIn Operand.ReadFrom s) :
    refutes vars s = .ok (!clause.holds vars) := by
  simp only [refutes, read_trim_eq_ok.mpr h, Except.map]

theorem exists_paddedIn_of_refutes {b : Bool} (h : refutes vars s = .ok b) :
    ∃ clause : Clause, clause.PaddedIn Operand.ReadFrom s ∧ (!clause.holds vars) = b := by
  unfold refutes at h
  cases hread : Clause.read (Text.trim s) with
  | error fault =>
    rw [hread] at h
    cases h
  | ok clause =>
    rw [hread] at h
    exact ⟨clause, read_trim_eq_ok.mp hread, Except.ok.inj h⟩

theorem refutes_eq_false : refutes vars s = .ok false ↔ ReadAsTrue vars s := by
  constructor
  · intro h
    obtain ⟨clause, hclause, hholds⟩ := exists_paddedIn_of_refutes h
    exact ⟨clause, hclause, Clause.holds_iff.mp (by simpa using hholds)⟩
  · rintro ⟨clause, hclause, hholds⟩
    rw [refutes_of_paddedIn vars hclause, Clause.holds_iff.mpr hholds]
    rfl

theorem refutes_eq_true : refutes vars s = .ok true ↔ ReadAsFalse vars s := by
  constructor
  · intro h
    obtain ⟨clause, hclause, hholds⟩ := exists_paddedIn_of_refutes h
    exact ⟨clause, hclause, mt Clause.holds_iff.mpr (by simpa using hholds)⟩
  · rintro ⟨clause, hclause, hholds⟩
    rw [refutes_of_paddedIn vars hclause, Bool.not_eq_true _ |>.mp (mt Clause.holds_iff.mp hholds)]
    rfl

theorem refutes_eq_error : (∃ fault, refutes vars s = .error fault) ↔ Unreadable s := by
  constructor
  · rintro ⟨fault, h⟩ clause hclause
    rw [refutes_of_paddedIn vars hclause] at h
    cases h
  · intro h
    cases hrefutes : refutes vars s with
    | error fault => exact ⟨fault, rfl⟩
    | ok b =>
      obtain ⟨clause, hclause, -⟩ := exists_paddedIn_of_refutes hrefutes
      exact absurd hclause (h clause)

theorem exists_map_eq_error {ε α β : Type} {x : Except ε α} (f : α → β) :
    (∃ e, x.map f = .error e) ↔ ∃ e, x = .error e := by
  cases x <;> simp [Except.map]

theorem allHold_eq_false (vars : Variables) (s : List Char) :
    allHold vars (split '&' s) = .ok false ↔ Fails vars s := by
  have hsome : allHold vars (split '&' s) = .ok false ↔
      ∃ part, (split '&' s).findM? (refutes vars) = .ok (some part) := by
    rw [allHold_eq]
    rcases (split '&' s).findM? (refutes vars) with e | _ | part <;> simp [Except.map]
  rw [hsome]
  simp only [findM?_eq_some, refutes_eq_false, refutes_eq_true]
  constructor
  · rintro ⟨part, before, after, h⟩
    exact ⟨before, part, after, h⟩
  · rintro ⟨before, part, after, h⟩
    exact ⟨part, before, after, h⟩

theorem allHold_eq_error (vars : Variables) (s : List Char) :
    (∃ fault, allHold vars (split '&' s) = .error fault) ↔ Breaks vars s := by
  rw [allHold_eq, exists_map_eq_error, exists_findM?_eq_error]
  simp only [refutes_eq_false, refutes_eq_error]
  rfl

/-- A blank text is a blank alternative, and that is not read as a clause. -/
theorem breaks_of_allBlank (vars : Variables) (h : Text.AllBlank s) : Breaks vars s := by
  have hjoint : IsJoint '&' := .inl rfl
  refine ⟨[], s, [], split_of_plain hjoint.isQuote (plain_of_allBlank hjoint h), by simp, ?_⟩
  intro clause hclause
  have hdollar := h _ (dollar_mem_of_paddedIn hclause)
  cases hdollar

/-! ## Texts that are no condition -/

/-- Parts that are written as something are joined to a text that is written as all of this. -/
theorem exists_joinedAs_of_split {α : Type} {spelled : α → List Char → Prop}
    (h : ∀ part ∈ split c s, ∃ a, spelled a part) : ∃ as, JoinedAs c spelled as s := by
  obtain ⟨as, has⟩ := exists_forall₂_of_forall h
  refine ⟨as, ?_, split c s, has, (intercalate_split c s).symm⟩
  rintro rfl
  exact splitFrom_ne_nil c none s (List.forall₂_nil_left_iff.mp has)

theorem exists_writtenAs_iff : (∃ alternatives, WrittenAs alternatives s) ↔
    ∀ alternative ∈ split '|' s, ∀ part ∈ split '&' alternative,
      ∃ clause : Clause, clause.PaddedIn Operand.WrittenAs part := by
  constructor
  · rintro ⟨alternatives, hwritten⟩
    refine forall_mem_of_forall₂ hwritten.split fun clauses alternative hclauses => ?_
    exact forall_mem_of_forall₂ (split_alternative hclauses)
      fun clause _ hclause => ⟨clause, hclause⟩
  · exact fun h => exists_joinedAs_of_split fun alternative halternative =>
      exists_joinedAs_of_split (h alternative halternative)

/-- **What is rejected.** A text is no condition just when one of its parts is no clause. Evaluation
rejects it just when, before the outcome is known, it comes to a part that is not even read as a
clause: the alternatives before the one with this part are false, and the clauses of the alternative
before this part hold. -/
theorem rejected_iff (vars : Variables) (text : String) :
    ((∃ fault, evaluate vars text = .error fault) ↔
      ∃ before alternative after, split '|' text.toList = before ++ alternative :: after ∧
        (∀ b ∈ before, Fails vars b) ∧ Breaks vars alternative) ∧
      ((¬ ∃ alternatives, WrittenAs alternatives text.toList) ↔
        ∃ alternative ∈ split '|' text.toList, ∃ part ∈ split '&' alternative,
          ∀ clause : Clause, ¬ clause.PaddedIn Operand.WrittenAs part) := by
  refine ⟨?_, by rw [exists_writtenAs_iff]; push Not; rfl⟩
  cases hblank : Text.isBlankText text with
  | true =>
    have hall : Text.AllBlank text.toList := List.all_eq_true.mp hblank
    have hjoint : IsJoint '|' := .inr rfl
    have hsplit := split_of_plain hjoint.isQuote (plain_of_allBlank hjoint hall)
    refine ⟨fun _ => ⟨[], _, [], hsplit, by simp, breaks_of_allBlank vars hall⟩, fun _ => ?_⟩
    exact ⟨.empty, if_pos hblank⟩
  | false =>
    have hevaluate : evaluate vars text = anyHolds vars (split '|' text.toList) := by
      rw [evaluate, hblank]
      rfl
    rw [hevaluate, anyHolds_eq, exists_map_eq_error, exists_findM?_eq_error]
    simp only [allHold_eq_false, allHold_eq_error]

/-- A literal is written between quotes that it does not hold. -/
theorem exists_quote_of_paddedIn {name literal : String} {equal : Bool}
    (h : (Clause.compare name equal (.literal literal)).PaddedIn Operand.WrittenAs s) :
    ∃ quote, isQuote quote = true ∧ quote ∉ literal.toList ∧ quote ∈ s := by
  obtain ⟨before, t, after, -, -, hclause, rfl⟩ := h
  cases hclause with
  | compare _ _ _ hoperand =>
    cases hoperand with
    | @literal quote _ hquote hown _ =>
      exact ⟨quote, hquote, by simpa using hown, by simp⟩

/-- Of two texts that are no conditions, one is rejected under some variables and not under others,
and one is not rejected: the first has a part that is come to only if the variable is not bound, the
second a quotation that holds its own quote. -/
theorem malformed_not_rejected :
    (¬ ∃ alternatives, WrittenAs alternatives "$A || junk".toList) ∧
      evaluate (.ofList [("A", "x")]) "$A || junk" = .ok true ∧
      evaluate {} "$A || junk" = .error (.unsupported "junk") ∧
      (¬ ∃ alternatives, WrittenAs alternatives "$A == \"x\" y \"z\"".toList) ∧
      evaluate {} "$A == \"x\" y \"z\"" = .ok false := by
  refine ⟨fun hwritten => ?_, by decide, by decide, fun hwritten => ?_, by decide⟩
  · have hparts := exists_writtenAs_iff.mp hwritten
    obtain ⟨clause, hclause⟩ := hparts " junk".toList (by decide) " junk".toList (by decide)
    cases read_trim_eq_ok.mpr (hclause.mono fun _ _ => .written)
  · have hparts := exists_writtenAs_iff.mp hwritten
    obtain ⟨clause, hclause⟩ := hparts _ (by decide : "$A == \"x\" y \"z\"".toList ∈ _) _
      (by decide : "$A == \"x\" y \"z\"".toList ∈ _)
    have hread := read_trim_eq_ok.mpr (hclause.mono fun _ _ => .written)
    obtain rfl : Clause.compare "A" true (.literal "x\" y \"z") = clause := Except.ok.inj hread
    obtain ⟨quote, hquote, hown, hmem⟩ := exists_quote_of_paddedIn hclause
    rcases isQuote_iff.mp hquote with rfl | rfl
    · exact hown (by decide)
    · revert hmem
      decide

end IncludeTree.Condition
