import IncludeTree.Repository

/-!
# The order of a search

The files of a scope are kept in increasing order and each once, however they were added
(`increasing_ofList`). A search passes over files and moves none, so what it answers is in
increasing order as well (`pairwise_lt_search`) and names no file twice (`nodup_search`).
-/

namespace IncludeTree

theorem Glob.select_of_parse {pattern : String} {paths : List String} {tokens : List Token}
    (h : parse pattern = .ok tokens) :
    select pattern paths = .ok (paths.filter (matchesPath tokens)) := by
  simp [select, compile, h]

theorem Glob.select_sublist {pattern : String} {paths found : List String}
    (h : Glob.select pattern paths = .ok found) : found.Sublist paths := by
  unfold Glob.select at h
  split at h
  · obtain rfl := Except.ok.inj h
    exact List.filter_sublist
  · cases h

namespace Trees

variable {path q : String} {paths : List String} {t : Trees}

theorem mem_insertPath : q ∈ insertPath path paths ↔ q = path ∨ q ∈ paths := by
  induction paths with
  | nil => simp [insertPath]
  | cons p rest ih =>
    simp only [insertPath]
    split
    · next heq => simp [heq]
    · split
      · simp
      · simp only [List.mem_cons, ih]
        exact or_left_comm

/-- A path that is put into an increasing list is put at its place. -/
theorem pairwise_insertPath (h : paths.Pairwise (· < ·)) :
    (insertPath path paths).Pairwise (· < ·) := by
  induction paths with
  | nil => simp [insertPath]
  | cons p rest ih =>
    obtain ⟨hp, hrest⟩ := List.pairwise_cons.mp h
    simp only [insertPath]
    split
    · exact h
    · next hne =>
      split
      · next hlt =>
        refine List.pairwise_cons.mpr ⟨fun x hx => ?_, h⟩
        rcases List.mem_cons.mp hx with rfl | hx
        · exact hlt
        · exact String.lt_trans hlt (hp x hx)
      · next hnlt =>
        refine List.pairwise_cons.mpr ⟨fun x hx => ?_, ih hrest⟩
        rcases mem_insertPath.mp hx with rfl | hx
        · refine String.not_le.mp fun hle => hne ?_
          exact String.le_antisymm hle (String.not_lt.mp hnlt)
        · exact hp x hx

/-- The files of every scope are in increasing order. -/
def Increasing (t : Trees) : Prop := ∀ entry ∈ t.trees, entry.2.Pairwise (· < ·)

theorem Increasing.add (h : t.Increasing) (scope : Scope) (path : String) :
    (t.add scope path).Increasing := by
  -- The scopes are walked by a function of its own, on which the induction is.
  have hinsert : ∀ trees : List (Scope × List String),
      (∀ entry ∈ trees, entry.2.Pairwise (· < ·)) →
      ∀ entry ∈ add.insert scope path trees, entry.2.Pairwise (· < ·) := by
    intro trees htrees
    induction trees with
    | nil => simp [add.insert]
    | cons entry rest ih =>
      obtain ⟨hentry, hrest⟩ := List.forall_mem_cons.mp htrees
      simp only [add.insert]
      split
      · exact List.forall_mem_cons.mpr ⟨pairwise_insertPath hentry, hrest⟩
      · exact List.forall_mem_cons.mpr ⟨hentry, ih hrest⟩
  exact hinsert t.trees h

/-- Files that are added one after the other stand in increasing order. -/
theorem increasing_ofList (files : List (Scope × String)) : (ofList files).Increasing := by
  have hfold : ∀ t : Trees, t.Increasing →
      (files.foldl (fun t f => t.add f.1 f.2) t).Increasing := by
    induction files with
    | nil => exact fun t ht => ht
    | cons f files ih => exact fun t ht => ih _ (ht.add f.1 f.2)
  exact hfold {} (by simp [Increasing])

variable {scope : Scope} {pattern : String} {found : List String}

/-- A search answers in increasing order. -/
theorem pairwise_lt_search (ht : t.Increasing) (h : t.search scope pattern = .ok found) :
    found.Pairwise (· < ·) := by
  unfold search at h
  split at h
  · obtain rfl := Except.ok.inj h
    exact List.Pairwise.nil
  · next paths hfind =>
    obtain ⟨before, after, htrees, -⟩ := List.lookup_eq_some_iff.mp hfind
    have hmem : (scope, paths) ∈ t.trees := by
      rw [htrees]
      exact List.mem_append_right before List.mem_cons_self
    exact (ht _ hmem).sublist (Glob.select_sublist h)

/-- A search names no file twice. -/
theorem nodup_search (ht : t.Increasing) (h : t.search scope pattern = .ok found) :
    found.Nodup :=
  (pairwise_lt_search ht h).imp String.ne_of_lt

end Trees

end IncludeTree
