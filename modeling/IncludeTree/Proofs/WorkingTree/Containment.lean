import IncludeTree.Proofs.Disk.Places
import IncludeTree.Proofs.WorkingTree.Agreement

/-!
# Paths inside a working tree

A path in a working tree is refused if it has two dots for a part, and otherwise leads on from the
root by its names, so that no path leads out (`filePath_eq`, `Path.place_join`). The paths that a
search lists are put together from names (`Path.names_of_names`), and so they lead back to the files
that they were listed for. `stays_inside` says both.
-/

namespace IncludeTree

namespace Path

variable {path relative : String}

/-- A relative path is joined by being written behind the root, with a slash in between at most. -/
theorem exists_separator (root : String) (h : isAbsolute relative = false) :
    ∃ separator, (separator = "" ∨ separator = "/") ∧
      join root relative = root ++ separator ++ relative := by
  unfold join
  rw [h]
  simp only [Bool.false_eq_true, if_false]
  split
  · exact ⟨"", .inl rfl, by simp⟩
  · exact ⟨"/", .inr rfl, rfl⟩

/-- A path of names has no other parts. -/
theorem names_of_names (h : ∀ name ∈ parts path, name ≠ "" ∧ name ≠ ".") :
    names path = parts path :=
  List.filter_eq_self.mpr fun name hname => by simpa using h name hname

end Path

namespace WorkingTree

variable {root path pattern : String} {v : Volume} {entries : List (String × Node)}

theorem filePath_eq (root path : String) : filePath root path =
    if ".." ∈ Path.parts path then
      .error (.invalidInput ("include path escapes the repository: " ++ path))
    else .ok (Path.join root (Path.trimSlashes path)) := by
  have hdots : ".." ∈ Path.parts (Path.trimSlashes path) ↔ ".." ∈ Path.parts path :=
    Path.mem_parts_trimSlashes (by decide)
  simp only [filePath, Path.climbs, List.contains_iff_mem, hdots]

/-- A path without two dots leads on from the root, by its names. -/
theorem place_filePath (h : ".." ∉ Path.parts path) (start : List String) :
    Path.place start (Path.join root (Path.trimSlashes path)) =
      Path.place start root ++ Path.names path := by
  rw [← Path.names_trimSlashes]
  exact Path.place_join start root (Path.isAbsolute_trimSlashes path)
    ((Path.mem_parts_trimSlashes (by decide)).not.mpr h)

/-- A path that is put together from the names of a file leads to that file. -/
theorem filePath_of_names {bytes : List UInt8} (hroot : v.find root = .ok (.directory entries))
    (hnames : ∀ name ∈ Path.parts path, name ≠ "" ∧ name ≠ "." ∧ name ≠ "..")
    (hat : (Node.directory entries).at? (Path.parts path) = some (.file bytes)) :
    ∃ full, filePath root path = .ok full ∧
      (∀ start, Path.place start full = Path.place start root ++ Path.parts path) ∧
      (Volume.Takes full → v.find full = .ok (.file bytes)) := by
  have hdots : ".." ∉ Path.parts path := fun h => (hnames _ h).2.2 rfl
  have htrim : Path.trimSlashes path = path := by
    by_contra hne
    obtain ⟨rest, rfl⟩ := Path.exists_of_trimSlashes_ne hne
    exact (hnames "" (Path.mem_parts_of_head? (by simp))).1 rfl
  have hplace : ∀ start, Path.place start (Path.join root (Path.trimSlashes path)) = _ :=
    place_filePath hdots
  rw [htrim, Path.names_of_names fun name hname => ⟨(hnames name hname).1, (hnames name hname).2.1⟩]
    at hplace
  refine ⟨Path.join root path, ?_, hplace, Volume.find_join hroot hat hnames⟩
  rw [filePath_eq, if_neg hdots, htrim]

/-- What a search lists are paths of files below the root, each put together from their names. -/
theorem exists_search_tree (hroot : v.find root = .ok (.directory entries))
    (hnamed : (Node.directory entries).WellNamed) (hpattern : Glob.IsPattern pattern) :
    ∃ found, (v.tree root).search pattern = .ok found ∧ ∀ path ∈ found,
      Path.parts path ∈ (Node.directory entries).files := by
  obtain ⟨tokens, hparse⟩ := Glob.isPattern_trimSlashes.mpr hpattern
  have hholds : v.Holds root ((Node.directory entries).files.map ("/".intercalate ·)) :=
    ⟨entries, hroot, .of_files hnamed⟩
  refine ⟨_, (search_tree hholds pattern).trans (Glob.select_of_parse hparse), fun path hpath => ?_⟩
  have hlisted := (List.mem_filter.mp hpath).1
  split at hlisted
  · cases hlisted
  · exact (Node.mem_map_files_iff hnamed).mp (Trees.mem_sorted.mp hlisted)

/-- **Paths stay inside the tree, and those that it lists lead back.** Let a working tree have a
root.

* A path with two dots for a part is refused.
* Any other is accepted, and written as a relative path without two dots behind the root, so that it
  leads on from where the root leads, by the names in it and no other way.
* Where the root leads to a directory, in which no file has dots for a name on its path, a search
  for a pattern lists paths that are accepted. Each leads on from the root by the names of a file,
  and to that very file, if the system does not find it too long. -/
theorem stays_inside (root : String) :
    (∀ path, ".." ∈ Path.parts path → filePath root path =
      .error (.invalidInput ("include path escapes the repository: " ++ path))) ∧
    (∀ path, ".." ∉ Path.parts path → ∃ separator relative,
      filePath root path = .ok (root ++ separator ++ relative) ∧
      (separator = "" ∨ separator = "/") ∧
      Path.isAbsolute relative = false ∧ ".." ∉ Path.parts relative ∧
      ∀ start, Path.place start (root ++ separator ++ relative) =
        Path.place start root ++ Path.names path) ∧
    ∀ (v : Volume) (entries : List (String × Node)), v.find root = .ok (.directory entries) →
      (Node.directory entries).WellNamed →
      (∀ names ∈ (Node.directory entries).files, "." ∉ names ∧ ".." ∉ names) →
      ∀ pattern, Glob.IsPattern pattern →
        ∃ found, (v.tree root).search pattern = .ok found ∧ ∀ path ∈ found, ∃ full bytes,
          filePath root path = .ok full ∧
          (Node.directory entries).at? (Path.parts path) = some (.file bytes) ∧
          (∀ start, Path.place start full = Path.place start root ++ Path.parts path) ∧
          (Volume.Takes full → v.find full = .ok (.file bytes)) := by
  refine ⟨fun path h => by rw [filePath_eq, if_pos h], fun path h => ?_, ?_⟩
  · have habsolute := Path.isAbsolute_trimSlashes path
    obtain ⟨separator, hseparator, hjoin⟩ := Path.exists_separator root habsolute
    have hdots : ".." ∉ Path.parts (Path.trimSlashes path) :=
      (Path.mem_parts_trimSlashes (by decide)).not.mpr h
    refine ⟨separator, Path.trimSlashes path, ?_, hseparator, habsolute, hdots, ?_⟩
    · rw [filePath_eq, if_neg h, hjoin]
    · rw [← hjoin]
      exact place_filePath h
  · intro v entries hroot hnamed hdots pattern hpattern
    obtain ⟨found, hsearch, hfound⟩ := exists_search_tree hroot hnamed hpattern
    refine ⟨found, hsearch, fun path hpath => ?_⟩
    have hfile := hfound path hpath
    obtain ⟨⟨bytes, hat⟩, -⟩ := (Node.mem_files hnamed).mp hfile
    have hnames : ∀ name ∈ Path.parts path, name ≠ "" ∧ name ≠ "." ∧ name ≠ ".." :=
      fun name hname => by
        obtain ⟨hone, htwo⟩ := hdots _ hfile
        exact ⟨(hnamed.of_at? hat name hname).1, fun h => hone (h ▸ hname),
          fun h => htwo (h ▸ hname)⟩
    obtain ⟨full, hfull, hplace, hfind⟩ := filePath_of_names hroot hnames hat
    exact ⟨full, bytes, hfull, hat, hplace, hfind⟩

/-- A root behind a link and with a slash at its end: a path with dots and slashes too many, one
with two dots, and a search. -/
theorem stays_inside_link :
    let directory : Node := .directory [("ci", .directory [("a.yml", .file [97])])]
    let v : Volume := { top := .directory [("repo", .link "data"), ("data", directory)] }
    (∃ separator relative,
      filePath "/repo/" "//./ci//a.yml" = .ok ("/repo/" ++ separator ++ relative) ∧
      Path.place [] ("/repo/" ++ separator ++ relative) = ["repo", "ci", "a.yml"]) ∧
    filePath "/repo/" "/ci/../../a.yml" =
      .error (.invalidInput "include path escapes the repository: /ci/../../a.yml") ∧
    (v.tree "/repo/").search "**/*.yml" = .ok ["ci/a.yml"] ∧
    filePath "/repo/" "ci/a.yml" = .ok "/repo/ci/a.yml" ∧
    v.find "/repo/ci/a.yml" = .ok (.file [97]) := by
  intro directory v
  obtain ⟨hrefused, haccepted, hlisted⟩ := stays_inside "/repo/"
  have hparts : Path.parts "//./ci//a.yml" = ["", "", ".", "ci", "", "a.yml"] ∧
      Path.parts "/ci/../../a.yml" = ["", "ci", "..", "..", "a.yml"] ∧
      Path.parts "/repo/" = ["", "repo", ""] ∧ Path.parts "ci/a.yml" = ["ci", "a.yml"] ∧
      Path.parts "/repo/ci/a.yml" = ["", "repo", "ci", "a.yml"] := by decide +kernel
  refine ⟨?_, hrefused _ (by rw [hparts.2.1]; decide), ?_⟩
  · obtain ⟨separator, relative, hfull, -, -, -, hplace⟩ :=
      haccepted "//./ci//a.yml" (by rw [hparts.1]; decide)
    refine ⟨separator, relative, hfull, (hplace []).trans ?_⟩
    rw [Path.place, Path.names, hparts.1, hparts.2.2.1]
    decide
  · have hfile : ∀ entry ∈ [("a.yml", Node.file [97])], entry.2.WellNamed := by
      simp [Node.WellNamed.file]
    have hnamed : directory.WellNamed := by
      refine .directory (by decide) (by decide) ?_
      simpa using Node.WellNamed.directory (by decide) (by decide) hfile
    have hwalk : v.walk 40 [] (Path.parts "/repo/") = .ok ["data"] := by
      rw [hparts.2.2.1]
      cbv
    have hroot : v.find "/repo/" = .ok directory :=
      Volume.find_of_walk (by decide) (by decide) (by decide) hwalk rfl
    have hsearch : (v.tree "/repo/").search "**/*.yml" = .ok ["ci/a.yml"] := by
      rw [search_tree ⟨_, hroot, .of_files hnamed⟩]
      decide +kernel
    have hfull : filePath "/repo/" "ci/a.yml" = .ok "/repo/ci/a.yml" := by decide +kernel
    refine ⟨hsearch, hfull, ?_⟩
    obtain ⟨found, hfound, hback⟩ :=
      hlisted v _ hroot hnamed (by decide) "**/*.yml" (by decide +kernel)
    obtain rfl : ["ci/a.yml"] = found := Except.ok.inj (hsearch.symm.trans hfound)
    obtain ⟨full, bytes, haccept, hat, -, hfind⟩ := hback "ci/a.yml" List.mem_cons_self
    obtain rfl : "/repo/ci/a.yml" = full := Except.ok.inj (hfull.symm.trans haccept)
    rw [hparts.2.2.2.1] at hat
    obtain rfl : [97] = bytes := Node.file.inj (Option.some.inj hat)
    exact hfind ⟨by decide, by decide, by rw [hparts.2.2.2.2]; decide⟩

end WorkingTree

end IncludeTree
