/-!
# The first entry that decides

Rules, patterns, alternatives and clauses are all looked at one after the other, up to the first
that decides or cannot be evaluated. In each case this is `List.findM?`, on entries that may fail.
How it ends can be read off the entries: `findM?_eq_some`, `findM?_eq_none` and `findM?_eq_error`
say so, and at most one of the ways is open.
-/

namespace IncludeTree

variable {α ε : Type} {p : α → Except ε Bool} {a : α} {as : List α} {e : ε}

theorem findM?_cons_of_true (h : p a = .ok true) (as : List α) :
    (a :: as).findM? p = .ok (some a) := by
  rw [List.findM?, h]
  rfl

theorem findM?_cons_of_false (h : p a = .ok false) (as : List α) :
    (a :: as).findM? p = as.findM? p := by
  rw [List.findM?, h]
  rfl

theorem findM?_cons_of_error (h : p a = .error e) (as : List α) :
    (a :: as).findM? p = .error e := by
  rw [List.findM?, h]
  rfl

/-- Entries that do not decide are passed over. -/
theorem findM?_append_of_false {before : List α} (h : ∀ b ∈ before, p b = .ok false)
    (after : List α) : (before ++ after).findM? p = after.findM? p := by
  induction before with
  | nil => rfl
  | cons b before ih =>
    obtain ⟨hb, hbefore⟩ := List.forall_mem_cons.mp h
    rw [List.cons_append, findM?_cons_of_false hb, ih hbefore]

theorem findM?_eq_none : as.findM? p = .ok none ↔ ∀ a ∈ as, p a = .ok false := by
  constructor
  · intro h
    induction as with
    | nil => simp
    | cons a as ih =>
      rcases ha : p a with e | ⟨_ | _⟩
      · rw [findM?_cons_of_error ha] at h
        cases h
      · rw [findM?_cons_of_false ha] at h
        exact List.forall_mem_cons.mpr ⟨ha, ih h⟩
      · rw [findM?_cons_of_true ha] at h
        cases h
  · intro h
    have hpassed := findM?_append_of_false h []
    rwa [List.append_nil] at hpassed

/-- An end other than that nothing decides is brought about by one entry, behind some that do not
decide. -/
theorem exists_split_of_findM? {r : Except ε (Option α)} (h : as.findM? p = r)
    (hr : r ≠ .ok none) :
    ∃ before a after, as = before ++ a :: after ∧ (∀ b ∈ before, p b = .ok false) ∧
      (p a = .ok true ∧ r = .ok (some a) ∨ ∃ e, p a = .error e ∧ r = .error e) := by
  induction as with
  | nil => exact absurd h.symm hr
  | cons a as ih =>
    rcases ha : p a with e | ⟨_ | _⟩
    · rw [findM?_cons_of_error ha] at h
      exact ⟨[], a, as, rfl, by simp, .inr ⟨e, ha, h.symm⟩⟩
    · rw [findM?_cons_of_false ha] at h
      obtain ⟨before, x, after, rfl, hbefore, hx⟩ := ih h
      exact ⟨a :: before, x, after, rfl, List.forall_mem_cons.mpr ⟨ha, hbefore⟩, hx⟩
    · rw [findM?_cons_of_true ha] at h
      exact ⟨[], a, as, rfl, by simp, .inl ⟨ha, h.symm⟩⟩

theorem findM?_eq_some : as.findM? p = .ok (some a) ↔
    ∃ before after, as = before ++ a :: after ∧ (∀ b ∈ before, p b = .ok false) ∧
      p a = .ok true := by
  constructor
  · intro h
    obtain ⟨before, x, after, hsplit, hbefore, ⟨hx, heq⟩ | ⟨e, -, heq⟩⟩ :=
      exists_split_of_findM? h (by simp)
    · obtain rfl : a = x := Option.some.inj (Except.ok.inj heq)
      exact ⟨before, after, hsplit, hbefore, hx⟩
    · cases heq
  · rintro ⟨before, after, rfl, hbefore, ha⟩
    rw [findM?_append_of_false hbefore, findM?_cons_of_true ha]

theorem findM?_eq_error : as.findM? p = .error e ↔
    ∃ before a after, as = before ++ a :: after ∧ (∀ b ∈ before, p b = .ok false) ∧
      p a = .error e := by
  constructor
  · intro h
    obtain ⟨before, x, after, hsplit, hbefore, ⟨-, heq⟩ | ⟨e', hx, heq⟩⟩ :=
      exists_split_of_findM? h (by simp)
    · cases heq
    · obtain rfl := Except.error.inj heq
      exact ⟨before, x, after, hsplit, hbefore, hx⟩
  · rintro ⟨before, a, after, rfl, hbefore, ha⟩
    rw [findM?_append_of_false hbefore, findM?_cons_of_error ha]

theorem exists_findM?_eq_error : (∃ e, as.findM? p = .error e) ↔
    ∃ before a after, as = before ++ a :: after ∧ (∀ b ∈ before, p b = .ok false) ∧
      ∃ e, p a = .error e := by
  constructor
  · rintro ⟨e, h⟩
    obtain ⟨before, a, after, hsplit, hbefore, ha⟩ := findM?_eq_error.mp h
    exact ⟨before, a, after, hsplit, hbefore, e, ha⟩
  · rintro ⟨before, a, after, hsplit, hbefore, e, ha⟩
    exact ⟨e, findM?_eq_error.mpr ⟨before, a, after, hsplit, hbefore, ha⟩⟩

end IncludeTree
