import IncludeTree.Proofs.Variables.Names

/-!
# Reading a text with placeholders

`expandChars_of_placeholder` and `expandChars_cons` are the two steps of `Variables.expandChars`: a
placeholder is replaced, and any other character is copied. `Variables.Plain` says of a text that no
placeholder occurs in it; such a text stays as it is (`expand_of_plain`), and a text that holds
neither of the two marks with which placeholders start is one (`plain_of_no_mark`). A character that
no placeholder is written with, such as a star, is never lost (`mem_expand`).
-/

namespace IncludeTree.Variables

variable {vars : Variables} {s name rest : List Char} {c : Char}

/-! ## One step -/

@[simp] theorem expandChars_nil (vars : Variables) : vars.expandChars [] = [] := by
  unfold expandChars
  rfl

theorem expandChars_of_placeholder (h : placeholder? s = some (name, rest)) :
    vars.expandChars s = vars.value name ++ vars.expandChars rest := by
  rw [expandChars]
  split
  · next h' =>
    obtain ⟨rfl, rfl⟩ := Prod.mk.inj (Option.some.inj (h.symm.trans h'))
    rfl
  · next h' => cases h.symm.trans h'

theorem expandChars_cons (h : placeholder? (c :: rest) = none) :
    vars.expandChars (c :: rest) = c :: vars.expandChars rest := by
  rw [expandChars]
  split
  · next h' => cases h.symm.trans h'
  · rfl

/-! ## Texts without placeholders -/

/-- Whether no placeholder occurs in a text. -/
def Plain (s : List Char) : Prop := ∀ t, t <:+ s → placeholder? t = none

theorem Plain.tail (h : Plain (c :: rest)) : Plain rest :=
  fun t ht => h t (ht.trans (List.suffix_cons c rest))

/-- A placeholder starts with one of two marks. -/
theorem placeholder?_cons_of_no_mark (hdollar : c ≠ '$') (hpercent : c ≠ '%') :
    placeholder? (c :: rest) = none := by
  unfold placeholder?
  split <;> simp_all

/-- A text without the marks of placeholders is plain. -/
theorem plain_of_no_mark (hdollar : '$' ∉ s) (hpercent : '%' ∉ s) : Plain s := by
  intro t ht
  cases t with
  | nil => rfl
  | cons c t =>
    have hmem : c ∈ s := ht.mem List.mem_cons_self
    exact placeholder?_cons_of_no_mark (fun h => hdollar (h ▸ hmem)) fun h => hpercent (h ▸ hmem)

theorem expandChars_of_plain (vars : Variables) (h : Plain s) : vars.expandChars s = s := by
  induction s with
  | nil => exact expandChars_nil vars
  | cons c rest ih => rw [expandChars_cons (h _ List.suffix_rfl), ih h.tail]

/-- A text without placeholders stays as it is. -/
theorem expand_of_plain (vars : Variables) {text : String} (h : Plain text.toList) :
    vars.expand text = text := by
  rw [expand, expandChars_of_plain vars h, String.ofList_toList]

/-! ## Characters that stay -/

/-- Whether a placeholder may be written with a character. -/
def inPlaceholder (c : Char) : Bool :=
  isNamePart c || c = '$' || c = '%' || c = '{' || c = '}'

/-- A character that no name is written with stands behind the name. -/
theorem mem_of_splitName? (h : splitName? s = some (name, rest)) (hc : c ∈ s)
    (hpart : isNamePart c = false) : c ∈ rest := by
  rw [← splitName?_append h] at hc
  refine (List.mem_append.mp hc).resolve_left fun hname => ?_
  rw [isNamePart_of_mem (isName_of_splitName? h) hname] at hpart
  cases hpart

theorem mem_of_closedName? {closing : Char} (h : closedName? closing s = some (name, rest))
    (hc : c ∈ s) (hpart : isNamePart c = false) (hclosing : c ≠ closing) : c ∈ rest := by
  unfold closedName? at h
  split at h
  · next hsplit =>
    split at h
    · next heq =>
      obtain ⟨-, rfl⟩ := Prod.mk.inj (Option.some.inj h)
      exact (List.mem_cons.mp (mem_of_splitName? hsplit hc hpart)).resolve_left (heq ▸ hclosing)
    · cases h
  · cases h

/-- A character that no placeholder is written with stands behind the placeholder. -/
theorem mem_of_placeholder? (h : placeholder? s = some (name, rest)) (hc : c ∈ s)
    (hmark : inPlaceholder c = false) : c ∈ rest := by
  simp only [inPlaceholder, Bool.or_eq_false_iff, decide_eq_false_iff_not] at hmark
  obtain ⟨⟨⟨⟨hpart, hdollar⟩, hpercent⟩, hopening⟩, hclosing⟩ := hmark
  unfold placeholder? at h
  split at h
  · have hbehind := (List.mem_cons.mp hc).resolve_left hdollar
    exact mem_of_closedName? h ((List.mem_cons.mp hbehind).resolve_left hopening) hpart hclosing
  · exact mem_of_splitName? h ((List.mem_cons.mp hc).resolve_left hdollar) hpart
  · exact mem_of_closedName? h ((List.mem_cons.mp hc).resolve_left hpercent) hpart hpercent
  · cases h

theorem mem_expandChars (vars : Variables) (hmark : inPlaceholder c = false) (hc : c ∈ s) :
    c ∈ vars.expandChars s := by
  induction s using expandChars.induct with
  | case1 s name rest hplaceholder ih =>
    rw [expandChars_of_placeholder hplaceholder]
    exact List.mem_append_right _ (ih (mem_of_placeholder? hplaceholder hc hmark))
  | case2 hplaceholder => cases hc
  | case3 x rest hplaceholder ih =>
    rw [expandChars_cons hplaceholder]
    rcases List.mem_cons.mp hc with rfl | hc
    · exact List.mem_cons_self
    · exact List.mem_cons_of_mem x (ih hc)

/-- A character that no placeholder is written with is never lost. -/
theorem mem_expand (vars : Variables) {text : String} (hmark : inPlaceholder c = false)
    (hc : c ∈ text.toList) : c ∈ (vars.expand text).toList := by
  rw [expand, String.toList_ofList]
  exact vars.mem_expandChars hmark hc

end IncludeTree.Variables
