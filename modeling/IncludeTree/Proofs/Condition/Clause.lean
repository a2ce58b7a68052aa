import IncludeTree.Proofs.Condition.Split
import IncludeTree.Proofs.Text.Trim
import IncludeTree.Proofs.Variables.Names
import Mathlib.Data.List.Basic

/-!
# Clauses and their texts

The clauses of a condition have a grammar: `Operand.WrittenAs` and `Clause.WrittenIn` say how an
operand and a clause are written, and `Clause.PaddedIn` puts blanks around a clause.

What is read as a clause is a little more than that: of a quotation only the first and the last
character are looked at, so that it may hold its own quote (`Operand.ReadFrom`). With this the
grammar is exact: a text is read as a clause if and only if it is one with blanks around it
(`read_trim_eq_ok`).
-/

namespace IncludeTree

variable {name s t text rest : List Char} {c quote : Char}

namespace Condition

open Text (AllBlank)

variable {operand : Operand} {clause : Clause} {equal : Bool} {body : List Char}

/-! ## The grammar -/

/-- How an operand is written. -/
inductive Operand.WrittenAs : Operand → List Char → Prop where
  | null : WrittenAs null ['n', 'u', 'l', 'l']
  | named {name : List Char} :
      Variables.isName name = true →
      WrittenAs (named (String.ofList name)) ('$' :: name)
  /-- Between quotes of either kind, a text on one line without such quotes. -/
  | literal {quote : Char} {text : List Char} :
      isQuote quote = true → quote ∉ text → '\n' ∉ text →
      WrittenAs (literal (String.ofList text)) (quote :: (text ++ [quote]))

/-- What an operand is read from: the ways it is written, and quotations that hold their own
quote. -/
inductive Operand.ReadFrom : Operand → List Char → Prop where
  | written {operand : Operand} {t : List Char} :
      WrittenAs operand t →
      ReadFrom operand t
  | quotation {quote : Char} {text : List Char} :
      isQuote quote = true → quote ∈ text → '\n' ∉ text →
      ReadFrom (literal (String.ofList text)) (quote :: (text ++ [quote]))

/-- The operator of a comparison. -/
def operator : Bool → List Char
  | true => ['=', '=']
  | false => ['!', '=']

/-- How a clause is written, if `written` says how operands are. -/
inductive Clause.WrittenIn (written : Operand → List Char → Prop) : Clause → List Char → Prop where
  | present {name : List Char} :
      Variables.isName name = true →
      WrittenIn written (present (String.ofList name)) ('$' :: name)
  | compare {name gap gap' t : List Char} {equal : Bool} {operand : Operand} :
      Variables.isName name = true → AllBlank gap → AllBlank gap' →
      written operand t →
      WrittenIn written (compare (String.ofList name) equal operand)
        ('$' :: (name ++ (gap ++ (operator equal ++ (gap' ++ t)))))

/-- How a clause is written with blanks around it. -/
def Clause.PaddedIn (written : Operand → List Char → Prop) (clause : Clause) (s : List Char) :
    Prop :=
  ∃ before t after, AllBlank before ∧ AllBlank after ∧ WrittenIn written clause t ∧
    s = before ++ (t ++ after)

/-! ## Reading operands -/

theorem varName?_eq_some :
    varName? s = some name ↔ s = '$' :: name ∧ Variables.isName name = true := by
  constructor
  · intro h
    unfold varName? at h
    split at h
    · split at h
      · next hname =>
        obtain rfl := Option.some.inj h
        exact ⟨rfl, hname⟩
      · cases h
    · cases h
  · rintro ⟨rfl, hname⟩
    exact if_pos hname

theorem unquote?_eq_some : unquote? quote s = some text ↔ s = quote :: (text ++ [quote]) := by
  constructor
  · intro h
    unfold unquote? at h
    split at h
    · next c d rest =>
      split at h
      · next hquotes =>
        simp only [Bool.and_eq_true, decide_eq_true_eq] at hquotes
        obtain ⟨rfl, hlast⟩ := hquotes
        obtain rfl := Option.some.inj h
        have hmem : c ∈ (d :: rest).getLast? := by
          rw [List.getLastD_eq_getLast?, List.getLast?_cons] at hlast
          rw [List.getLast?_cons]
          exact congrArg some hlast
        obtain ⟨inner, hinner⟩ := List.getLast?_eq_some_iff.mp hmem
        rw [hinner, List.dropLast_concat]
      · cases h
    · cases h
  · rintro rfl
    obtain ⟨d, rest, hrest⟩ := List.exists_cons_of_ne_nil (l := text ++ [quote]) (by simp)
    rw [hrest, unquote?, ← hrest]
    simp

theorem isQuote_iff : isQuote c = true ↔ c = '"' ∨ c = '\'' := by simp [isQuote]

/-- A text without blanks at its ends. -/
structure Bare (s : List Char) : Prop where
  ne_nil : s ≠ []
  head : ∀ c ∈ s.head?, Text.isBlank c = false
  last : ∀ c ∈ s.getLast?, Text.isBlank c = false

theorem bare_of_forall (hne : s ≠ []) (h : ∀ c ∈ s, Text.isBlank c = false) : Bare s where
  ne_nil := hne
  head := fun c hc => h c (List.mem_of_head? hc)
  last := fun c hc => h c (List.mem_of_getLast? hc)

theorem bare_cons_append (hc : Text.isBlank c = false) (s : List Char) (ht : Bare t) :
    Bare (c :: (s ++ t)) where
  ne_nil := by simp
  head := by simpa using hc
  last := by
    rw [← List.cons_append, List.getLast?_append_of_ne_nil _ ht.ne_nil]
    exact ht.last

theorem isBlank_of_mem_variable (h : Variables.isName name = true) :
    ∀ c ∈ '$' :: name, Text.isBlank c = false :=
  List.forall_mem_cons.mpr
    ⟨by decide, fun _ hc => Variables.isBlank_of_isNamePart (Variables.isNamePart_of_mem h hc)⟩

theorem isBlank_of_isQuote (h : isQuote c = true) : Text.isBlank c = false := by
  rcases isQuote_iff.mp h with rfl | rfl <;> decide

theorem bare_quotation (h : isQuote quote = true) (text : List Char) :
    Bare (quote :: (text ++ [quote])) :=
  bare_cons_append (isBlank_of_isQuote h) text <|
    bare_of_forall (by simp) (by simpa using isBlank_of_isQuote h)

theorem Operand.ReadFrom.bare (h : ReadFrom operand t) : Bare t := by
  cases h with
  | written hwritten =>
    cases hwritten with
    | null => exact bare_of_forall (by simp) (by simp [Text.isBlank])
    | named hname => exact bare_of_forall (by simp) (isBlank_of_mem_variable hname)
    | literal hquote _ _ => exact bare_quotation hquote _
  | quotation hquote _ _ => exact bare_quotation hquote _

theorem Operand.ReadFrom.line (h : ReadFrom operand t) : '\n' ∉ t := by
  have hquotation : ∀ {quote : Char} {text : List Char}, isQuote quote = true → '\n' ∉ text →
      '\n' ∉ quote :: (text ++ [quote]) := by
    intro quote text hquote htext
    have hne : '\n' ≠ quote := by rcases isQuote_iff.mp hquote with rfl | rfl <;> decide
    simp [htext, hne]
  cases h with
  | written hwritten =>
    cases hwritten with
    | null => decide
    | named hname => exact fun hmem => by cases isBlank_of_mem_variable hname _ hmem
    | literal hquote _ hline => exact hquotation hquote hline
  | quotation hquote _ hline => exact hquotation hquote hline

/-- A quotation is read as the text between its quotes. -/
theorem Operand.read_quotation (h : isQuote quote = true) (text : List Char) :
    Operand.read (quote :: (text ++ [quote])) = .ok (literal (String.ofList text)) := by
  have hvar : varName? (quote :: (text ++ [quote])) = none := by
    rcases isQuote_iff.mp h with rfl | rfl <;> rfl
  have hnull : quote :: (text ++ [quote]) ≠ ['n', 'u', 'l', 'l'] := by
    rcases isQuote_iff.mp h with rfl | rfl <;> simp
  have hown : unquote? quote (quote :: (text ++ [quote])) = some text := unquote?_eq_some.mpr rfl
  unfold Operand.read
  rw [if_neg hnull, hvar]
  rcases isQuote_iff.mp h with rfl | rfl
  · simp only [hown]
  · have hother : unquote? '"' ('\'' :: (text ++ ['\''])) = none := by
      rw [Option.eq_none_iff_forall_ne_some]
      intro inner hinner
      simpa using unquote?_eq_some.mp hinner
    simp only [hother, hown]

theorem Operand.read_eq_ok (h : '\n' ∉ t) : Operand.read t = .ok operand ↔ ReadFrom operand t := by
  constructor
  · intro hread
    have hquotation : ∀ {quote : Char} {text : List Char}, isQuote quote = true →
        t = quote :: (text ++ [quote]) → ReadFrom (literal (String.ofList text)) t := by
      rintro quote text hquote rfl
      have hline : '\n' ∉ text := fun hmem => h (by simp [hmem])
      by_cases hown : quote ∈ text
      · exact .quotation hquote hown hline
      · exact .written (.literal hquote hown hline)
    unfold Operand.read at hread
    split at hread
    · next hnull =>
      cases hread
      rw [hnull]
      exact .written .null
    · split at hread
      · next hvar =>
        cases hread
        obtain ⟨rfl, hname⟩ := varName?_eq_some.mp hvar
        exact .written (.named hname)
      · split at hread
        · next hdouble =>
          cases hread
          exact hquotation rfl (unquote?_eq_some.mp hdouble)
        · split at hread
          · next hsingle =>
            cases hread
            exact hquotation rfl (unquote?_eq_some.mp hsingle)
          · cases hread
  · intro hread
    cases hread with
    | written hwritten =>
      cases hwritten with
      | null => rfl
      | @named name hname =>
        have hvar : varName? ('$' :: name) = some name := varName?_eq_some.mpr ⟨rfl, hname⟩
        unfold Operand.read
        rw [if_neg (by simp), hvar]
      | literal hquote _ _ => exact read_quotation hquote _
    | quotation hquote _ _ => exact read_quotation hquote _

/-! ## Reading clauses -/

theorem operator?_eq_some {body : List Char} :
    operator? s = some (equal, body) ↔ s = operator equal ++ body := by
  constructor
  · intro h
    unfold operator? at h
    split at h
    · cases h; rfl
    · cases h; rfl
    · cases h
  · rintro rfl
    cases equal <;> rfl

/-- What a comparison is taken apart into. -/
theorem exists_of_comparison? (h : comparison? s = some (name, equal, body)) :
    ∃ gap gap' after, AllBlank gap ∧ AllBlank gap' ∧ AllBlank after ∧
      Variables.isName name = true ∧ '\n' ∉ body ∧
      s = '$' :: (name ++ (gap ++ (operator equal ++ (gap' ++ (body ++ after))))) := by
  unfold comparison? at h
  split at h
  · split at h
    · next s name' rest hname =>
      split at h
      · next equal' right hoperator =>
        dsimp only at h
        split at h
        · cases h
        · next hbody =>
          cases h
          obtain ⟨gap, hgap, hrest⟩ := Text.exists_trimStart rest
          obtain ⟨gap', hgap', hright⟩ := Text.exists_trimStart right
          obtain ⟨after, hafter, hend⟩ := Text.exists_trimEnd (Text.trimStart right)
          refine ⟨gap, gap', after, hgap, hgap', hafter, Variables.isName_of_splitName? hname,
            fun hline => hbody ?_, ?_⟩
          · have hmem : '\n' ∈ Text.trimStart right := by
              rw [hend]
              exact List.mem_append_left after hline
            simp [hmem]
          · rw [← hend, ← hright, ← operator?_eq_some.mp hoperator, ← hrest,
              Variables.splitName?_append hname]
      · cases h
    · cases h
  · cases h

theorem comparison?_eq_some {gap gap' : List Char} (hname : Variables.isName name = true)
    (hgap : AllBlank gap) (hgap' : AllBlank gap') (hbody : Bare body) (hline : '\n' ∉ body) :
    comparison? ('$' :: (name ++ (gap ++ (operator equal ++ (gap' ++ body))))) =
      some (name, equal, body) := by
  have hend : ∀ c ∈ (gap ++ (operator equal ++ (gap' ++ body))).head?,
      Variables.isNamePart c = false := by
    intro c hc
    cases gap with
    | nil =>
      cases equal
      · cases hc; decide
      · cases hc; decide
    | cons x gap =>
      cases hc
      exact Variables.isNamePart_of_isBlank (hgap c (by simp))
  have hoperator : Text.trimStart (gap ++ (operator equal ++ (gap' ++ body))) =
      operator equal ++ (gap' ++ body) := by
    rw [Text.trimStart_append hgap]
    cases equal <;> rfl
  have hright : Text.trimStart (gap' ++ body) = body := by
    rw [Text.trimStart_append hgap', Text.trimStart_eq_self hbody.head]
  have hname := Variables.splitName?_of_isName hname hend
  have hsides : operator? (operator equal ++ (gap' ++ body)) = some (equal, gap' ++ body) :=
    operator?_eq_some.mpr rfl
  simp [comparison?, hname, hoperator, hsides, hright, Text.trimEnd_eq_self hbody.last,
    hbody.ne_nil, hline]

theorem read_eq_ok_of_writtenIn (h : Clause.WrittenIn Operand.ReadFrom clause s) :
    Clause.read s = .ok clause := by
  cases h with
  | @present name hname =>
    have hvar : varName? ('$' :: name) = some name := varName?_eq_some.mpr ⟨rfl, hname⟩
    unfold Clause.read
    rw [hvar]
  | @compare name gap gap' t equal operand hname hgap hgap' hoperand =>
    have hvar : varName? ('$' :: (name ++ (gap ++ (operator equal ++ (gap' ++ t))))) = none := by
      rw [Option.eq_none_iff_forall_ne_some]
      intro name' hname'
      obtain ⟨heq, hisName⟩ := varName?_eq_some.mp hname'
      have hmem : '=' ∈ name' := by
        rw [← (List.cons.inj heq).2]
        cases equal <;> simp [operator]
      have hpart := Variables.isNamePart_of_mem hisName hmem
      cases hpart
    have hread : Operand.read t = .ok operand :=
      (Operand.read_eq_ok hoperand.line).mpr hoperand
    unfold Clause.read
    rw [hvar, comparison?_eq_some hname hgap hgap' hoperand.bare hoperand.line]
    simp only [hread]

theorem Clause.WrittenIn.bare (h : Clause.WrittenIn Operand.ReadFrom clause t) : Bare t := by
  cases h with
  | present hname => exact bare_of_forall (by simp) (isBlank_of_mem_variable hname)
  | @compare name gap gap' t equal operand _ _ _ hoperand =>
    have hbare := bare_cons_append (by decide : Text.isBlank '$' = false)
      (name ++ (gap ++ (operator equal ++ gap'))) hoperand.bare
    simpa using hbare

/-- **What is read as a clause.** -/
theorem read_trim_eq_ok :
    Clause.read (Text.trim s) = .ok clause ↔ clause.PaddedIn Operand.ReadFrom s := by
  constructor
  · intro h
    obtain ⟨before, after, hbefore, hafter, hs⟩ := Text.exists_pad s
    unfold Clause.read at h
    split at h
    · next name hvar =>
      cases h
      obtain ⟨htrim, hname⟩ := varName?_eq_some.mp hvar
      rw [htrim] at hs
      exact ⟨before, _, after, hbefore, hafter, .present hname, hs⟩
    · split at h
      · next name equal body hcompare =>
        split at h
        · next operand hoperand =>
          cases h
          obtain ⟨gap, gap', blank, hgap, hgap', hblank, hname, hline, htrim⟩ :=
            exists_of_comparison? hcompare
          refine ⟨before, _, blank ++ after, hbefore, hblank.append hafter,
            .compare hname hgap hgap' ((Operand.read_eq_ok hline).mp hoperand), ?_⟩
          rw [htrim] at hs
          simpa using hs
        · cases h
      · cases h
  · rintro ⟨before, t, after, hbefore, hafter, hwritten, rfl⟩
    rw [Text.trim_pad hbefore hafter hwritten.bare.ne_nil hwritten.bare.head hwritten.bare.last]
    exact read_eq_ok_of_writtenIn hwritten

end Condition

end IncludeTree
