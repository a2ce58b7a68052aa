import IncludeTree.Disk.Memory

/-!
# What a directory holds

`Node.files` goes through a directory from entry to entry, and `Node.at?` follows the names of a
path. In a directory whose names are names, as on every disk (`Node.WellNamed`), the two agree: the
files that are listed are those that stand at some path, but for paths on which something is named
`.git` (`Node.mem_files`). The names on a path and its text determine each other
(`Path.parts_intercalate`), so a directory lists the paths that it holds, and no others
(`Node.Holds.mem_map_files`).
-/

namespace IncludeTree

namespace Path

/-- The parts of a path that is put together from names are these names. -/
theorem parts_intercalate {names : List String} (hnil : names ≠ [])
    (hslash : ∀ name ∈ names, '/' ∉ name.toList) : parts ("/".intercalate names) = names := by
  unfold parts
  rw [String.toList_intercalate]
  show (List.splitOn '/' (['/'].intercalate (names.map String.toList))).map String.ofList = names
  rw [List.splitOn_intercalate]
  · simp
  · simpa using hslash
  · simpa using hnil

/-- A path is put together from its parts. -/
theorem intercalate_parts (path : String) : "/".intercalate (parts path) = path := by
  unfold parts
  apply String.toList_inj.mp
  rw [String.toList_intercalate]
  show ['/'].intercalate (((path.toList.splitOn '/').map String.ofList).map String.toList) = _
  simp [List.intercalate_splitOn]

/-- A path that starts with a slash starts with an empty part. -/
theorem mem_parts_of_head? {path : String} (h : path.toList.head? = some '/') :
    "" ∈ parts path := by
  obtain ⟨rest, hrest⟩ := List.head?_eq_some_iff.mp h
  have hsplit : path.toList.splitOn '/' = [] :: rest.splitOn '/' := by
    rw [hrest]
    exact List.splitOn_append_cons_self_of_not_mem List.not_mem_nil rest
  unfold parts
  rw [hsplit, List.map_cons]
  exact List.mem_cons_self

end Path

namespace Node

/-- Whether the names in a node are names: none is empty or holds a slash, and no directory has one
twice. -/
inductive WellNamed : Node → Prop
  | file (bytes : List UInt8) : WellNamed (.file bytes)
  | link (target : String) : WellNamed (.link target)
  | directory {entries : List (String × Node)} (hnodup : (entries.map Prod.fst).Nodup)
      (hname : ∀ entry ∈ entries, entry.1 ≠ "" ∧ '/' ∉ entry.1.toList)
      (hbelow : ∀ entry ∈ entries, WellNamed entry.2) : WellNamed (.directory entries)

variable {n found : Node} {names : List String} {entries : List (String × Node)}

theorem lookup_eq_some_of_mem {name : String} {child : Node}
    (hnodup : (entries.map Prod.fst).Nodup) (h : (name, child) ∈ entries) :
    entries.lookup name = some child := by
  obtain ⟨before, after, rfl⟩ := List.append_of_mem h
  refine List.lookup_eq_some_iff.mpr ⟨before, after, rfl, fun entry hentry => ?_⟩
  rw [List.map_append, List.map_cons] at hnodup
  have hne : entry.1 ≠ name := fun heq =>
    (List.nodup_append.mp hnodup).2.2 _ (List.mem_map_of_mem hentry) _ List.mem_cons_self heq
  simpa using hne.symm

theorem mem_of_lookup_eq_some {name : String} {child : Node}
    (h : entries.lookup name = some child) : (name, child) ∈ entries := by
  obtain ⟨before, after, rfl, -⟩ := List.lookup_eq_some_iff.mp h
  exact List.mem_append_right before List.mem_cons_self

/-- A path leads on from a directory through one of its entries. -/
theorem at?_directory_cons (hnodup : (entries.map Prod.fst).Nodup) {name : String}
    {rest : List String} : (directory entries).at? (name :: rest) = some found ↔
      ∃ entry ∈ entries, entry.1 = name ∧ entry.2.at? rest = some found := by
  simp only [at?, child?]
  constructor
  · intro h
    cases hchild : entries.lookup name with
    | none =>
      rw [hchild] at h
      cases h
    | some child =>
      rw [hchild] at h
      exact ⟨(name, child), mem_of_lookup_eq_some hchild, rfl, h⟩
  · rintro ⟨⟨_, child⟩, hentry, rfl, h⟩
    rw [lookup_eq_some_of_mem hnodup hentry]
    exact h

theorem mem_filesOf :
    names ∈ filesOf entries ↔
      ∃ entry ∈ entries, entry.1 ≠ ".git" ∧ ∃ rest ∈ entry.2.files, names = entry.1 :: rest := by
  induction entries with
  | nil => simp [filesOf]
  | cons entry entries ih =>
    obtain ⟨name, child⟩ := entry
    rw [filesOf, List.mem_append, ih]
    by_cases hgit : name = ".git"
    · simp [hgit]
    · simp [hgit, eq_comm]

/-- **What is listed.** The files that are listed are those that stand at some path below, but for
those that stand at or below something named `.git`. -/
theorem mem_files (h : n.WellNamed) :
    names ∈ n.files ↔ (∃ bytes, n.at? names = some (.file bytes)) ∧ ".git" ∉ names := by
  induction h generalizing names with
  | file bytes => cases names <;> simp [files, at?, child?]
  | link target => cases names <;> simp [files, at?, child?]
  | directory hnodup hname hbelow ih =>
    rw [files, mem_filesOf]
    cases names with
    | nil => simp [at?]
    | cons name rest =>
      simp only [at?_directory_cons hnodup, List.mem_cons, not_or]
      constructor
      · rintro ⟨entry, hentry, hgit, _, hfile, heq⟩
        obtain ⟨rfl, rfl⟩ := List.cons.inj heq
        obtain ⟨⟨bytes, hat⟩, hrest⟩ := (ih entry hentry).mp hfile
        exact ⟨⟨bytes, entry, hentry, rfl, hat⟩, hgit.symm, hrest⟩
      · rintro ⟨⟨bytes, entry, hentry, rfl, hat⟩, hgit, hrest⟩
        have hfile : rest ∈ entry.2.files := (ih entry hentry).mpr ⟨⟨bytes, hat⟩, hrest⟩
        exact ⟨entry, hentry, fun heq => hgit heq.symm, rest, hfile, rfl⟩

/-- The names on a path to something are names. -/
theorem WellNamed.of_at? (h : n.WellNamed) (hat : n.at? names = some found) :
    ∀ name ∈ names, name ≠ "" ∧ '/' ∉ name.toList := by
  induction h generalizing names with
  | file bytes => cases names <;> simp [at?, child?] at hat ⊢
  | link target => cases names <;> simp [at?, child?] at hat ⊢
  | directory hnodup hname hbelow ih =>
    cases names with
    | nil => simp
    | cons name rest =>
      obtain ⟨entry, hentry, rfl, hrest⟩ := (at?_directory_cons hnodup).mp hat
      exact List.forall_mem_cons.mpr ⟨hname entry hentry, ih entry hentry hrest⟩

/-- The names of a listed file are the parts of its path. -/
theorem mem_map_files_iff (h : (directory entries).WellNamed) {path : String} :
    path ∈ (directory entries).files.map ("/".intercalate ·) ↔
      Path.parts path ∈ (directory entries).files := by
  rw [List.mem_map]
  constructor
  · rintro ⟨names, hfile, rfl⟩
    obtain ⟨⟨bytes, hat⟩, -⟩ := (mem_files h).mp hfile
    have hnil : names ≠ [] := by
      rintro rfl
      simp [at?] at hat
    rwa [Path.parts_intercalate hnil fun name hname => (h.of_at? hat name hname).2]
  · intro hfile
    exact ⟨Path.parts path, hfile, Path.intercalate_parts path⟩

/-- A directory holds `paths` if these are the files below it, but for those that stand at or below
something named `.git`. -/
structure Holds (n : Node) (paths : List String) : Prop where
  /-- Its names are names. -/
  wellNamed : n.WellNamed
  /-- What `paths` are. -/
  mem_iff (path : String) : path ∈ paths ↔
    (∃ bytes, n.at? (Path.parts path) = some (.file bytes)) ∧ ".git" ∉ Path.parts path

namespace Holds

variable {paths : List String} {path : String}

theorem head?_ne_slash (h : n.Holds paths) (hpath : path ∈ paths) :
    path.toList.head? ≠ some '/' := by
  obtain ⟨⟨bytes, hat⟩, -⟩ := (h.mem_iff path).mp hpath
  intro hhead
  exact (h.wellNamed.of_at? hat "" (Path.mem_parts_of_head? hhead)).1 rfl

/-- The files that are listed of a directory are those that it holds. -/
theorem mem_map_files (h : (directory entries).Holds paths) :
    path ∈ (directory entries).files.map ("/".intercalate ·) ↔ path ∈ paths := by
  rw [h.mem_iff, ← mem_files h.wellNamed]
  exact mem_map_files_iff h.wellNamed

/-- A directory holds what is listed of it. -/
theorem of_files (h : (directory entries).WellNamed) :
    (directory entries).Holds ((directory entries).files.map ("/".intercalate ·)) := by
  refine ⟨h, fun path => ?_⟩
  rw [← mem_files h]
  exact mem_map_files_iff h

end Holds

end Node

namespace Volume

/-- Whether a path of a disk leads to a directory that holds `paths`. -/
def Holds (v : Volume) (root : String) (paths : List String) : Prop :=
  ∃ entries, v.find root = .ok (.directory entries) ∧ (Node.directory entries).Holds paths

/-- A path that the system takes leads to what stands at the place that its parts lead to. -/
theorem find_of_walk {v : Volume} {path : String} {place : List String} {n : Node}
    (hnul : '\x00' ∉ path.toList) (hnil : path ≠ "") (hlong : path.utf8ByteSize < 4096)
    (hwalk : v.walk 40 (if Path.isAbsolute path then [] else v.start) (Path.parts path) = .ok place)
    (hat : v.top.at? place = some n) : v.find path = .ok n := by
  unfold find
  rw [if_neg (by simpa using hnul), if_neg hnil, if_neg (Nat.not_le.mpr hlong), hwalk]
  simp [hat]

end Volume

end IncludeTree
