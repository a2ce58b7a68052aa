import IncludeTree.Text.Blank

/-!
# Blanks around a text

`Text.trim` takes off the blanks that have been put around a text which has none at its ends
(`trim_pad`), and whatever it takes off is blank (`exists_pad`).
-/

namespace IncludeTree.Text

variable {s t before after : List Char}

/-- Whether every character of a text is blank. -/
def AllBlank (s : List Char) : Prop := ∀ c ∈ s, isBlank c = true

instance : Decidable (AllBlank s) := decidable_of_iff (s.all isBlank = true) List.all_eq_true

theorem AllBlank.append (hs : AllBlank s) (ht : AllBlank t) : AllBlank (s ++ t) :=
  fun c hc => (List.mem_append.mp hc).elim (hs c) (ht c)

theorem allBlank_takeWhile (s : List Char) : AllBlank (s.takeWhile isBlank) := by
  induction s with
  | nil => exact fun c hc => nomatch hc
  | cons x s ih =>
    rw [List.takeWhile_cons]
    split
    · next hx => exact List.forall_mem_cons.mpr ⟨hx, ih⟩
    · exact fun c hc => nomatch hc

/-! ## Taking blanks off -/

theorem trimStart_append (hs : AllBlank s) (t : List Char) : trimStart (s ++ t) = trimStart t :=
  List.dropWhile_append_of_pos hs

theorem trimStart_eq_self (h : ∀ c ∈ s.head?, isBlank c = false) : trimStart s = s := by
  cases s with
  | nil => rfl
  | cons c s => simp [trimStart, h c rfl]

theorem trimEnd_append (s : List Char) (ht : AllBlank t) : trimEnd (s ++ t) = trimEnd s := by
  have hreverse : ∀ c ∈ t.reverse, isBlank c = true := fun c hc => ht c (List.mem_reverse.mp hc)
  unfold trimEnd
  rw [List.reverse_append, List.dropWhile_append_of_pos hreverse]

theorem trimEnd_eq_self (h : ∀ c ∈ s.getLast?, isBlank c = false) : trimEnd s = s := by
  have hstart : trimStart s.reverse = s.reverse := trimStart_eq_self (by simpa using h)
  exact (congrArg List.reverse hstart).trans (List.reverse_reverse s)

theorem trim_pad (hbefore : AllBlank before) (hafter : AllBlank after) (hne : s ≠ [])
    (hhead : ∀ c ∈ s.head?, isBlank c = false) (hlast : ∀ c ∈ s.getLast?, isBlank c = false) :
    trim (before ++ (s ++ after)) = s := by
  obtain ⟨c, s, rfl⟩ := List.exists_cons_of_ne_nil hne
  have hstart : trimStart ((c :: s) ++ after) = (c :: s) ++ after :=
    trimStart_eq_self (by simpa using hhead)
  rw [trim, trimStart_append hbefore, hstart, trimEnd_append _ hafter, trimEnd_eq_self hlast]

theorem exists_trimStart (s : List Char) : ∃ before, AllBlank before ∧ s = before ++ trimStart s :=
  ⟨s.takeWhile isBlank, allBlank_takeWhile s, List.takeWhile_append_dropWhile.symm⟩

theorem exists_trimEnd (s : List Char) : ∃ after, AllBlank after ∧ s = trimEnd s ++ after := by
  obtain ⟨before, hbefore, hs⟩ := exists_trimStart s.reverse
  refine ⟨before.reverse, fun c hc => hbefore c (List.mem_reverse.mp hc), ?_⟩
  have hreverse := congrArg List.reverse hs
  rwa [List.reverse_reverse, List.reverse_append] at hreverse

theorem exists_pad (s : List Char) :
    ∃ before after, AllBlank before ∧ AllBlank after ∧ s = before ++ (trim s ++ after) := by
  obtain ⟨before, hbefore, hs⟩ := exists_trimStart s
  obtain ⟨after, hafter, ht⟩ := exists_trimEnd (trimStart s)
  exact ⟨before, after, hbefore, hafter, by rw [trim, ← ht, ← hs]⟩

end IncludeTree.Text
