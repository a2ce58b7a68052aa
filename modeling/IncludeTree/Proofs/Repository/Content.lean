import IncludeTree.Proofs.Repository.Order

/-!
# What a scope holds

Files are added to the scopes of a repository in memory in some order and some of them more than
once. Of all this a scope keeps nothing but which files it has: `find?_ofList` reads it off the
files that were added, as the increasing list of those of the scope. So a search answers the same in
any two repositories that have the same files in its scope (`search_ofList_congr`), whatever they
have in others and however they came by them.
-/

namespace IncludeTree.Trees

variable {files files' : List (Scope × String)} {scope : Scope} {path : String}
  {paths paths' : List String} {t : Trees}

/-! ## Increasing lists -/

/-- An increasing list is determined by what stands in it. -/
theorem eq_of_mem_iff (h : paths.Pairwise (· < ·)) (h' : paths'.Pairwise (· < ·))
    (hmem : ∀ path, path ∈ paths ↔ path ∈ paths') : paths = paths' := by
  have hperm : paths.Perm paths' :=
    (List.perm_ext_iff_of_nodup (h.imp String.ne_of_lt) (h'.imp String.ne_of_lt)).mpr hmem
  exact hperm.eq_of_pairwise (fun p q _ _ hlt hlt' => absurd (String.lt_trans hlt hlt')
    (String.lt_irrefl p)) h h'

/-- Paths at their places in an increasing list. -/
def sorted (paths : List String) : List String := paths.foldr insertPath []

theorem mem_sorted : path ∈ sorted paths ↔ path ∈ paths := by
  unfold sorted
  induction paths with
  | nil => rfl
  | cons p rest ih => rw [List.foldr_cons, mem_insertPath, ih, List.mem_cons]

theorem pairwise_sorted (paths : List String) : (sorted paths).Pairwise (· < ·) := by
  unfold sorted
  induction paths with
  | nil => exact List.Pairwise.nil
  | cons p rest ih => exact pairwise_insertPath ih

theorem sorted_eq_nil : sorted paths = [] ↔ paths = [] := by
  simp only [List.eq_nil_iff_forall_not_mem, mem_sorted]

/-! ## The files of a scope -/

theorem lookup_cons_of_ne {entries : List (Scope × List String)} {other : Scope}
    (h : scope ≠ other) : ((other, paths) :: entries).lookup scope = entries.lookup scope := by
  rw [List.lookup_cons, beq_false_of_ne h]

/-- Adding a file changes what its own scope holds. -/
theorem find?_add (t : Trees) (scope other : Scope) (path : String) :
    (t.add other path).find? scope =
      if other = scope then some (insertPath path ((t.find? scope).getD [])) else t.find? scope := by
  -- The scopes are walked by a function of its own, on which the induction is.
  have hinsert : ∀ trees : List (Scope × List String),
      (add.insert other path trees).lookup scope =
        if other = scope then some (insertPath path ((trees.lookup scope).getD []))
        else trees.lookup scope := by
    intro trees
    induction trees with
    | nil =>
      by_cases h : other = scope
      · simp [add.insert, insertPath, h]
      · simp [add.insert, lookup_cons_of_ne (Ne.symm h), h]
    | cons entry rest ih =>
      obtain ⟨s, paths⟩ := entry
      simp only [add.insert]
      by_cases hs : s = other
      · rw [if_pos hs]
        subst hs
        by_cases h : s = scope
        · simp [h]
        · simp [lookup_cons_of_ne (Ne.symm h), h]
      · rw [if_neg hs]
        by_cases h : s = scope
        · have hne : other ≠ scope := fun heq => hs (h.trans heq.symm)
          simp [h, hne]
        · rw [lookup_cons_of_ne (Ne.symm h), lookup_cons_of_ne (Ne.symm h), ih]
  exact hinsert t.trees

/-- A scope has the files that have been added to it. -/
theorem mem_find?_ofList :
    path ∈ ((ofList files).find? scope).getD [] ↔ (scope, path) ∈ files := by
  have hfold : ∀ t : Trees, path ∈ ((files.foldl (fun t f => t.add f.1 f.2) t).find? scope).getD [] ↔
      path ∈ (t.find? scope).getD [] ∨ (scope, path) ∈ files := by
    induction files with
    | nil => simp
    | cons f files ih =>
      intro t
      rw [List.foldl_cons, ih, find?_add]
      have hf : f = (scope, path) ↔ f.1 = scope ∧ f.2 = path := Prod.ext_iff
      by_cases h : f.1 = scope
      · simp [h, hf, mem_insertPath, or_assoc, or_left_comm, eq_comm]
      · simp [h, hf, eq_comm]
  exact (hfold {}).trans (by simp [find?])

/-- A scope without files is not there. -/
theorem find?_ofList_ne_some_nil : (ofList files).find? scope ≠ some [] := by
  have hfold : ∀ t : Trees, t.find? scope ≠ some [] →
      (files.foldl (fun t f => t.add f.1 f.2) t).find? scope ≠ some [] := by
    induction files with
    | nil => exact fun t ht => ht
    | cons f files ih =>
      refine fun t ht => ih _ ?_
      rw [find?_add]
      split
      · intro h
        have hmem := mem_insertPath.mpr (.inl rfl : f.2 = f.2 ∨ f.2 ∈ (t.find? scope).getD [])
        rw [Option.some.inj h] at hmem
        cases hmem
      · exact ht
  exact hfold {} (by simp [find?])

/-- **What a scope holds.** The scope of files that are added one after the other holds those that
are of it, in increasing order, and is not there if there are none. -/
theorem find?_ofList (h : ∀ path, path ∈ paths ↔ (scope, path) ∈ files) :
    (ofList files).find? scope = if paths = [] then none else some (sorted paths) := by
  have hmem : ∀ path, path ∈ ((ofList files).find? scope).getD [] ↔ path ∈ sorted paths :=
    fun path => by rw [mem_find?_ofList, mem_sorted, h]
  cases hfind : (ofList files).find? scope with
  | none =>
    rw [hfind] at hmem
    have hnil : sorted paths = [] := List.eq_nil_iff_forall_not_mem.mpr fun path hpath => by
      cases (hmem path).mpr hpath
    rw [if_pos (sorted_eq_nil.mp hnil)]
  | some found =>
    rw [hfind] at hmem
    have hincreasing : found.Pairwise (· < ·) := by
      obtain ⟨before, after, htrees, -⟩ := List.lookup_eq_some_iff.mp hfind
      have hentry : (scope, found) ∈ (ofList files).trees := by
        rw [htrees]
        exact List.mem_append_right before List.mem_cons_self
      exact increasing_ofList files _ hentry
    have heq : found = sorted paths := eq_of_mem_iff hincreasing (pairwise_sorted paths) hmem
    have hne : paths ≠ [] := fun hnil => by
      rw [heq, hnil] at hfind
      exact find?_ofList_ne_some_nil hfind
    rw [if_neg hne, heq]

/-! ## Searches -/

/-- A search goes through the files of its scope, and finds a scope without files empty. -/
theorem search_ofList (h : ∀ path, path ∈ paths ↔ (scope, path) ∈ files) (pattern : String) :
    (ofList files).search scope pattern =
      if paths = [] then .ok [] else Glob.select pattern (sorted paths) := by
  unfold search
  rw [find?_ofList h]
  by_cases hnil : paths = [] <;> simp [hnil]

/-- **A search looks at its own scope only.** Files that are added to other scopes make no
difference, nor does the order in which files are added, nor how often. -/
theorem search_ofList_congr (h : ∀ path, (scope, path) ∈ files ↔ (scope, path) ∈ files')
    (pattern : String) :
    (ofList files).search scope pattern = (ofList files').search scope pattern := by
  have hown : ∀ path, path ∈ ((ofList files).find? scope).getD [] ↔ (scope, path) ∈ files :=
    fun path => mem_find?_ofList
  rw [search_ofList hown, search_ofList fun path => (hown path).trans (h path)]

end IncludeTree.Trees
