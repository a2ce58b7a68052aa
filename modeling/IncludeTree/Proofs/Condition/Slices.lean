import IncludeTree.Condition.Slices
import IncludeTree.Proofs.Condition.Cuts
import Mathlib.Data.String.Basic

/-!
# Parts of a condition and their slices

The pass over a text that takes its parts out as slices always succeeds, and what it takes out are
the parts that `split` puts together (`slices?_eq`). The induction is on the characters that are
ahead of the pass; of the current part it has read some already, and these stand between `front`,
behind which the part starts, and the place where the pass is.

With that, and with what is known about cuts, `split_cuts_outside_quotations` says all that the
evaluation of a condition relies on.
-/

namespace IncludeTree.Condition

/-! ## Places -/

/-- The place behind a text. -/
def behind (s : List Char) : String.Pos.Raw := ⟨String.utf8Len s⟩

variable {c : Char} {isOpen : Option Char} {text operator : String}
  {front current rest : List Char} {start place : String.Pos.Raw}

theorem behind_append_singleton (s : List Char) (x : Char) : behind (s ++ [x]) = behind s + x := by
  simp [behind, String.Pos.Raw.add_char_eq]

theorem behind_append_toList (s : List Char) (t : String) :
    behind (s ++ t.toList) = behind s + t := by
  simp [behind, String.Pos.Raw.addString_eq, String.utf8Len_toList]

theorem behind_le_append (s t : List Char) : behind s ≤ behind (s ++ t) := by
  simp [behind]

theorem not_behind_append_singleton_le (s : List Char) (x : Char) :
    ¬ behind (s ++ [x]) ≤ behind s := by
  have hpos := x.utf8Size_pos
  simp only [behind, String.utf8Len_append, String.utf8Len_cons, String.utf8Len_nil,
    String.Pos.Raw.mk_le_mk]
  omega

/-- A slice between the ends of two beginnings of the text. -/
theorem slice?_eq (h : text.toList = front ++ (current ++ rest)) :
    slice? text (behind front) (behind (front ++ current)) = some (String.ofList current) := by
  obtain rfl : text = String.ofList (front ++ (current ++ rest)) := by
    rw [← h, String.ofList_toList]
  have hstart : (behind front).IsValid (String.ofList (front ++ (current ++ rest))) := by
    rw [String.Pos.Raw.isValid_iff_exists_append]
    exact ⟨.ofList front, .ofList (current ++ rest), String.ofList_append,
      (String.rawEndPos_ofList front).symm⟩
  have hstop : (behind (front ++ current)).IsValid
      (String.ofList (front ++ (current ++ rest))) := by
    rw [String.Pos.Raw.isValid_iff_exists_append, ← List.append_assoc]
    exact ⟨.ofList (front ++ current), .ofList rest, String.ofList_append,
      (String.rawEndPos_ofList _).symm⟩
  have hextract := String.extract_of_valid front current rest
  rw [List.append_assoc, ← String.utf8Len_append] at hextract
  rw [slice?, if_pos ⟨behind_le_append front current, hstart, hstop⟩]
  exact congrArg some hextract

theorem slice?_rawEndPos (h : text.toList = front ++ current) :
    slice? text (behind front) text.rawEndPos = some (String.ofList current) := by
  have hend : text.rawEndPos = behind (front ++ current) := by
    rw [← h, behind, String.utf8Len_toList]
    rfl
  have hread : text.toList = front ++ (current ++ []) := by rw [h, List.append_nil]
  rw [hend, slice?_eq hread]

theorem slicesFrom?_nil (isOpen : Option Char) (h : text.toList = front ++ current) :
    slicesFrom? text operator isOpen (behind front) place [] = some [String.ofList current] := by
  rw [slicesFrom?, slice?_rawEndPos h]
  rfl

/-- The pass goes on where there is no operator outside quotations, and where it has not come to the
start of the current part yet. -/
theorem slicesFrom?_cons {x : Char} (h : text.toList = front ++ x :: rest)
    (hstay : isOpen = none → isQuote x = false → operator.toList <+: x :: rest →
      ¬ start ≤ behind front) :
    slicesFrom? text operator isOpen start (behind front) (x :: rest) =
      slicesFrom? text operator (quoteAfter isOpen x) start (behind (front ++ [x])) rest := by
  rw [slicesFrom?, behind_append_singleton]
  split
  · next hplain =>
    simp only [Bool.and_eq_true, decide_eq_true_eq, Bool.not_eq_true'] at hplain
    obtain ⟨rfl, hx⟩ := hplain
    have hcut : ¬ ((String.ofList (x :: rest)).startsWith operator &&
        decide (start ≤ behind front)) = true := by
      simp only [Bool.and_eq_true, decide_eq_true_eq, String.startsWith_string_iff,
        String.toList_ofList]
      exact fun hoperator => hstay rfl hx hoperator.1 hoperator.2
    rw [slice?_rawEndPos h, quoteAfter_none hx]
    exact if_neg hcut
  · rfl

/-- At an operator the current part is cut off, and the next one starts behind the operator. -/
theorem slicesFrom?_cut {x : Char} (h : text.toList = front ++ (current ++ x :: rest))
    (hx : isQuote x = false) (hoperator : operator.toList <+: x :: rest) :
    slicesFrom? text operator none (behind front) (behind (front ++ current)) (x :: rest) =
      (slicesFrom? text operator none (behind (front ++ current ++ operator.toList))
        (behind (front ++ current ++ [x])) rest).map (String.ofList current :: ·) := by
  have hahead : text.toList = (front ++ current) ++ x :: rest := by rw [h, List.append_assoc]
  have hplain : ((none : Option Char) = none && !isQuote x) = true := by simp [hx]
  have hcut : ((String.ofList (x :: rest)).startsWith operator &&
      decide (behind front ≤ behind (front ++ current))) = true := by
    simp only [Bool.and_eq_true, decide_eq_true_eq, String.startsWith_string_iff,
      String.toList_ofList]
    exact ⟨hoperator, behind_le_append front current⟩
  rw [slicesFrom?, if_pos hplain, slice?_rawEndPos hahead, behind_append_toList,
    behind_append_singleton]
  dsimp only [Option.bind_eq_bind, Option.bind_some]
  rw [if_pos hcut, slice?_eq h, Option.map_eq_bind]
  rfl

/-- The second half of an operator is passed over: the current part starts behind it. -/
theorem slicesFrom?_operator (hc : isQuote c = false) (hoperator : operator.toList = [c, c])
    (h : text.toList = front ++ (current ++ c :: c :: rest)) :
    slicesFrom? text operator none (behind front) (behind (front ++ current)) (c :: c :: rest) =
      (slicesFrom? text operator none (behind (front ++ current ++ [c, c]))
        (behind (front ++ current ++ [c, c])) rest).map (String.ofList current :: ·) := by
  have hstarts : operator.toList <+: c :: c :: rest := by
    rw [hoperator]
    exact List.prefix_append [c, c] rest
  have hsecond : text.toList = (front ++ current ++ [c]) ++ c :: rest := by
    rw [h]
    simp
  have hlater : ¬ behind (front ++ current ++ [c, c]) ≤ behind (front ++ current ++ [c]) := by
    rw [List.append_cons]
    exact not_behind_append_singleton_le _ c
  rw [slicesFrom?_cut h hc hstarts, hoperator, slicesFrom?_cons hsecond fun _ _ _ => hlater,
    quoteAfter_none hc, List.append_assoc _ [c] [c]]
  rfl

/-- The pass takes out what `splitFrom` puts together, in front of which there is what it has read
of the current part. -/
theorem slicesFrom?_eq (hc : isQuote c = false) (hoperator : operator.toList = [c, c])
    (isOpen : Option Char) (h : text.toList = front ++ (current ++ rest)) :
    slicesFrom? text operator isOpen (behind front) (behind (front ++ current)) rest =
      some ((current.foldr consFirst (splitFrom c isOpen rest)).map String.ofList) := by
  fun_induction splitFrom c isOpen rest generalizing front current with
  | case1 isOpen =>
    rw [slicesFrom?_nil isOpen (by rw [h, List.append_nil]), foldr_consFirst, List.append_nil]
    rfl
  | case2 isOpen x =>
    have hread : text.toList = (front ++ current) ++ x :: [] := by rw [h, List.append_assoc]
    rw [slicesFrom?_cons hread, slicesFrom?_nil _ h, foldr_consFirst]
    · rfl
    · intro _ _ hstarts
      rw [hoperator] at hstarts
      exact absurd hstarts.length_le (by simp)
  | case3 isOpen x y rest hcut ih =>
    simp only [Bool.and_eq_true, decide_eq_true_eq] at hcut
    obtain ⟨⟨⟨rfl, -⟩, rfl⟩, rfl⟩ := hcut
    have hread : text.toList = (front ++ current ++ [y, y]) ++ ([] ++ rest) := by simp [h]
    have hnext := ih hread
    rw [List.append_nil] at hnext
    rw [slicesFrom?_operator hc hoperator h, hnext, foldr_consFirst, List.append_nil]
    rfl
  | case4 isOpen x y rest hcut ih =>
    have hread : text.toList = (front ++ current) ++ x :: y :: rest := by
      rw [h, List.append_assoc]
    have hlonger : text.toList = front ++ ((current ++ [x]) ++ y :: rest) := by simp [h]
    have hnext := ih hlonger
    rw [← List.append_assoc, List.foldr_append] at hnext
    rw [slicesFrom?_cons hread, hnext]
    · rfl
    · rintro rfl hx hstarts
      rw [hoperator] at hstarts
      obtain ⟨rest', heq⟩ := hstarts
      simp only [List.cons_append, List.cons.injEq] at heq
      exact absurd (by simp [hc, ← heq.1, ← heq.2.1]) hcut

theorem slices?_eq (hc : isQuote c = false) (hoperator : operator.toList = [c, c])
    (text : String) :
    slices? text operator = some ((split c text.toList).map String.ofList) := by
  have hread : text.toList = [] ++ ([] ++ text.toList) := rfl
  exact slicesFrom?_eq hc hoperator none hread

/-! ## The parts of a text -/

/-- **Cuts are outside quotations.** The operator is a character twice, as in `||` and `&&`. With
operators between them the parts of a text are the text. In front of every operator that is cut out
all quotations have ended, and no part, read by itself, has an operator outside quotations; every
part but the last is closed, and ends at the first operator that is met outside its quotations. All
of them are taken out of the text in one pass, in which no slice starts behind its end, leaves the
text or cuts through a character. -/
theorem split_cuts_outside_quotations (hc : isQuote c = false) (text : String) :
    [c, c].intercalate (split c text.toList) = text.toList ∧
    (∀ before after, before ≠ [] → after ≠ [] → split c text.toList = before ++ after →
      text.toList =
        [c, c].intercalate before ++ ([c, c] ++ [c, c].intercalate after) ∧
      Closed ([c, c].intercalate before)) ∧
    (∀ part ∈ split c text.toList, ¬ StandsOutside [c, c] part) ∧
    (∀ part ∈ (split c text.toList).dropLast,
      Closed part ∧ ¬ StandsOutside [c, c] (part ++ [c])) ∧
    slices? text (String.ofList [c, c]) = some ((split c text.toList).map String.ofList) := by
  have hcut : CutFrom c none text.toList (split c text.toList) := cutFrom_splitFrom hc none _
  have hjoin := intercalate_split c text.toList
  refine ⟨hjoin, ?_, fun part hpart => whole_iff.mp (hcut.whole part hpart), ?_,
    slices?_eq hc String.toList_ofList text⟩
  · intro before after hbefore hafter hsplit
    have hclosed : ∀ part ∈ before, Closed part := by
      intro part hpart
      apply And.left (hcut.dropLast part _)
      rw [hsplit, List.dropLast_append_of_ne_nil hafter]
      exact List.mem_append_left _ hpart
    rw [hsplit, intercalate_append _ hbefore hafter] at hjoin
    exact ⟨hjoin.symm, closed_intercalate hc hclosed⟩
  · intro part hpart
    obtain ⟨hclosed, hwhole⟩ := hcut.dropLast part hpart
    exact ⟨hclosed, whole_iff.mp hwhole⟩

/-- Three bars of which two are an operator, operators in two quotations, and one quotation that
does not end. -/
theorem split_cuts_outside_quotations_bars :
    let text := "é|||'a||\"'||b\"||"
    let parts := [['é'], "|'a||\"'".toList, "b\"||".toList]
    isQuote '|' = false ∧ split '|' text.toList = parts ∧
    ['|', '|'].intercalate parts = text.toList ∧
    Closed (['|', '|'].intercalate [['é'], "|'a||\"'".toList]) ∧
    (∀ part ∈ parts, ¬ StandsOutside ['|', '|'] part) ∧
    Closed "|'a||\"'".toList ∧ ¬ Closed "b\"||".toList ∧
    slices? text "||" = some ["é", "|'a||\"'", "b\"||"] := by
  intro text parts
  have hbar : isQuote '|' = false := rfl
  have hsplit : split '|' text.toList = parts := by decide
  obtain ⟨hjoin, hcuts, hwhole, hclosed, hslices⟩ := split_cuts_outside_quotations hbar text
  rw [hsplit] at hjoin hcuts hwhole hclosed hslices
  have hfront := hcuts [['é'], "|'a||\"'".toList] ["b\"||".toList] (by simp) (by simp) rfl
  have hsecond := hclosed "|'a||\"'".toList (by decide)
  have hlast : ¬ Closed "b\"||".toList := by decide
  exact ⟨hbar, hsplit, hjoin, hfront.2, hwhole, hsecond.1, hlast, hslices⟩

end IncludeTree.Condition
