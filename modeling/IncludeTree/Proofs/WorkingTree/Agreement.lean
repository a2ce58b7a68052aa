import IncludeTree.Proofs.Disk.Listing
import IncludeTree.Proofs.Glob.Match
import IncludeTree.Proofs.Repository.Content
import IncludeTree.Proofs.Resolution.Isolation
import IncludeTree.WorkingTree
import Mathlib

/-!
# The working tree beside a repository in memory

A working tree and a repository in memory answer the same searches by different means. The one lists
a directory, drops the slashes at the start of the pattern and sorts what it finds; the other keeps
its paths in order, takes the pattern as it is, and does not look at it where it has no file. Here
the two hold the same files, and `agrees_with_trees` says how far their answers are the same.

Both go through one increasing list (`files_tree`, `Trees.search_ofList`), so what is left is the
pattern. Slashes at its start do not make it malformed or well-formed (`Glob.isPattern_trimSlashes`),
but keep it from matching anything in memory (`search_of_slash`). `answers_differ` shows that each of
the exceptions does occur. Of a repository a resolution has nothing but answers, so resolutions
agree where the answers do.
-/

namespace IncludeTree

theorem Path.exists_of_trimSlashes_ne {path : String} (h : trimSlashes path ≠ path) :
    ∃ rest, path = String.ofList ('/' :: rest) := by
  unfold trimSlashes at h
  cases hchars : path.toList with
  | nil =>
    rw [hchars] at h
    exact absurd (String.toList_inj.mp (by simp [hchars])) h
  | cons c rest =>
    by_cases hc : c = '/'
    · exact ⟨rest, String.toList_inj.mp (by simp [hchars, hc])⟩
    · rw [hchars, List.dropWhile_cons_of_neg (by simpa using hc)] at h
      exact absurd (String.toList_inj.mp (by simp [hchars])) h

/-- The working tree at a path of a disk in memory. -/
def Volume.tree (v : Volume) (root : String) : WorkingTree := Id.run (WorkingTree.load v.disk root)

namespace WorkingTree

open Glob (select_of_parse)

variable {v : Volume} {root : String} {paths : List String} {all : List (Scope × String)}
  {scope : Scope} {pattern : String}

/-! ## Answers that agree -/

/-- Two searches agree: they find the same paths in the same order, or both are refused because of
their patterns. -/
inductive Agree : Except SourceError (List String) → Except SourceError (List String) → Prop
  | found (paths : List String) : Agree (.ok paths) (.ok paths)
  | refused (text text' : String) :
    Agree (.error (.invalidInput text)) (.error (.invalidInput text'))

theorem Agree.symm {answer answer' : Except SourceError (List String)} (h : Agree answer answer') :
    Agree answer' answer := by
  cases h with
  | found paths => exact .found paths
  | refused text text' => exact .refused text' text

theorem agree_ok_iff {answer : Except SourceError (List String)} :
    Agree answer (.ok paths) ↔ answer = .ok paths := by
  constructor
  · rintro ⟨⟩
    rfl
  · rintro rfl
    exact .found paths

theorem select_of_not_isPattern (h : ¬ Glob.IsPattern pattern) :
    ∃ text, ∀ paths, Glob.select pattern paths = .error (.invalidInput text) := by
  unfold Glob.select Glob.compile
  cases hparse : Glob.parse pattern with
  | ok tokens => exact absurd ⟨tokens, hparse⟩ h
  | error fault => exact ⟨_, fun _ => rfl⟩

theorem agree_select_self : Agree (Glob.select pattern paths) (Glob.select pattern paths) := by
  by_cases h : Glob.IsPattern pattern
  · obtain ⟨tokens, hparse⟩ := h
    rw [select_of_parse hparse]
    exact .found _
  · obtain ⟨text, hselect⟩ := select_of_not_isPattern h
    rw [hselect]
    exact .refused text text

theorem select_eq_nil_iff (h : Glob.IsPattern pattern) :
    Glob.select pattern paths = .ok [] ↔ ∀ path ∈ paths, ¬ Glob.Matches pattern path := by
  obtain ⟨tokens, hparse⟩ := h
  rw [select_of_parse hparse, Except.ok.injEq, List.filter_eq_nil_iff]
  simp [Glob.Matches, hparse]

/-! ## What the two answer -/

/-- The files of a working tree are those that its directory holds, in increasing order. A directory
that is itself named `.git` is not looked into. -/
theorem files_tree (h : v.Holds root paths) : (v.tree root).files =
    .ok (if Path.fileName? root = some ".git" then [] else Trees.sorted paths) := by
  obtain ⟨entries, hfind, hholds⟩ := h
  have hsorted : Trees.sorted ((Node.directory entries).files.map ("/".intercalate ·)) =
      Trees.sorted paths :=
    Trees.eq_of_mem_iff (Trees.pairwise_sorted _) (Trees.pairwise_sorted _) fun path => by
      rw [Trees.mem_sorted, Trees.mem_sorted, hholds.mem_map_files]
  show (v.files root).map Trees.sorted = _
  unfold Volume.files
  rw [hfind, ← hsorted]
  show Except.ok (Trees.sorted (if _ then _ else _)) = _
  split <;> rfl

theorem search_tree (h : v.Holds root paths) (pattern : String) : (v.tree root).search pattern =
    Glob.select (Path.trimSlashes pattern)
      (if Path.fileName? root = some ".git" then [] else Trees.sorted paths) := by
  unfold search
  rw [files_tree h]

/-- Nothing in memory is found with a slash at the start of a pattern. -/
theorem search_of_slash (h : v.Holds root paths) (hall : ∀ path, path ∈ paths ↔ (scope, path) ∈ all)
    (hpattern : Glob.IsPattern pattern) (htrim : Path.trimSlashes pattern ≠ pattern) :
    (Trees.ofList all).search scope pattern = .ok [] := by
  obtain ⟨entries, -, hholds⟩ := h
  obtain ⟨rest, rfl⟩ := Path.exists_of_trimSlashes_ne htrim
  rw [Trees.search_ofList hall]
  split
  · rfl
  · rw [select_eq_nil_iff hpattern]
    intro path hpath
    exact Glob.not_matches_slash (hholds.head?_ne_slash (Trees.mem_sorted.mp hpath))

section

variable (hroot : Path.fileName? root ≠ some ".git") (h : v.Holds root paths)
  (hall : ∀ path, path ∈ paths ↔ (scope, path) ∈ all)

include hroot h hall

/-- A working tree answers a pattern as a repository in memory does without the slashes at its start,
unless there is no file and the pattern is malformed. -/
theorem search_tree_eq_iff (pattern : String) : (v.tree root).search pattern =
    (Trees.ofList all).search scope (Path.trimSlashes pattern) ↔
      (paths = [] → Glob.IsPattern pattern) := by
  rw [search_tree h, if_neg hroot, Trees.search_ofList hall, ← Glob.isPattern_trimSlashes]
  by_cases hnil : paths = []
  · subst hnil
    rw [if_pos rfl]
    constructor
    · intro hanswer _
      by_contra hmalformed
      obtain ⟨text, hselect⟩ := select_of_not_isPattern hmalformed
      rw [hselect] at hanswer
      cases hanswer
    · intro hpattern
      exact (select_eq_nil_iff (hpattern rfl)).mpr nofun
  · simp [hnil]

/-- Without a slash at the start the two answer the same. -/
theorem search_tree_eq (hpattern : paths = [] → Glob.IsPattern pattern)
    (htrim : Path.trimSlashes pattern = pattern) :
    (v.tree root).search pattern = (Trees.ofList all).search scope pattern := by
  rw [(search_tree_eq_iff hroot h hall pattern).mpr hpattern, htrim]

/-- When the two agree. -/
theorem agree_search_iff (pattern : String) :
    Agree ((v.tree root).search pattern) ((Trees.ofList all).search scope pattern) ↔
      (paths = [] → Glob.IsPattern pattern) ∧
      (Path.trimSlashes pattern = pattern ∨
        ∀ path ∈ paths, ¬ Glob.Matches (Path.trimSlashes pattern) path) := by
  by_cases hpattern : Glob.IsPattern pattern
  · by_cases htrim : Path.trimSlashes pattern = pattern
    · rw [search_tree_eq hroot h hall (fun _ => hpattern) htrim, Trees.search_ofList hall]
      refine iff_of_true ?_ ⟨fun _ => hpattern, .inl htrim⟩
      split
      · exact .found []
      · exact agree_select_self
    · rw [search_of_slash h hall hpattern htrim, agree_ok_iff, search_tree h, if_neg hroot,
        select_eq_nil_iff (Glob.isPattern_trimSlashes.mpr hpattern)]
      simp [hpattern, htrim, Trees.mem_sorted]
  · have htrimmed := Glob.isPattern_trimSlashes.not.mpr hpattern
    obtain ⟨text, hselect⟩ := select_of_not_isPattern htrimmed
    obtain ⟨text', hselect'⟩ := select_of_not_isPattern hpattern
    rw [search_tree h, hselect, Trees.search_ofList hall]
    by_cases hnil : paths = []
    · simp [hnil, hpattern, agree_ok_iff]
    · rw [if_neg hnil, hselect']
      have hmatches : ∀ path ∈ paths, ¬ Glob.Matches (Path.trimSlashes pattern) path :=
        fun path _ hmatch => htrimmed hmatch.isPattern
      exact iff_of_true (.refused text text') ⟨fun h => absurd h hnil, .inr hmatches⟩

/-- Where the two agree they answer the same, but that the one quotes a malformed pattern without
the slashes at its start. -/
theorem search_tree_eq_of_agree
    (hagree : Agree ((v.tree root).search pattern) ((Trees.ofList all).search scope pattern))
    (hquoted : Glob.IsPattern pattern ∨ Path.trimSlashes pattern = pattern) :
    (v.tree root).search pattern = (Trees.ofList all).search scope pattern := by
  rcases hquoted with hpattern | htrim
  · obtain ⟨tokens, hparse⟩ := Glob.isPattern_trimSlashes.mpr hpattern
    rw [search_tree h, select_of_parse hparse] at hagree ⊢
    exact (agree_ok_iff.mp hagree.symm).symm
  · exact search_tree_eq hroot h hall ((agree_search_iff hroot h hall pattern).mp hagree).1 htrim

end

open Context ResolveM

/-- **A working tree beside a repository in memory.** Let a directory that is not itself named `.git`
hold some files, and a repository in memory the same under a scope.

* The tree answers a pattern as the memory does the pattern without the slashes at its start, unless
  there is no file and the pattern is malformed: the memory then finds nothing and does not notice.
* They agree on the pattern itself, in that they find the same paths in the same order or both refuse
  it, just if there is a file or the pattern is well-formed, and if it has no slash at its start or
  matches no file without those slashes.
* A list of includes goes through every session alike with the one and with the other, if the two
  agree on all that it looks up and none of this is malformed with a slash at its start, which the
  messages quote differently. -/
theorem agrees_with_trees (hroot : Path.fileName? root ≠ some ".git") (h : v.Holds root paths)
    (hall : ∀ path, path ∈ paths ↔ (scope, path) ∈ all) :
    (∀ pattern, (v.tree root).search pattern =
      (Trees.ofList all).search scope (Path.trimSlashes pattern) ↔
        (paths = [] → Glob.IsPattern pattern)) ∧
    (∀ pattern,
      Agree ((v.tree root).search pattern) ((Trees.ofList all).search scope pattern) ↔
        (paths = [] → Glob.IsPattern pattern) ∧
        (Path.trimSlashes pattern = pattern ∨
          ∀ path ∈ paths, ¬ Glob.Matches (Path.trimSlashes pattern) path)) ∧
    ∀ (ctx : Context) (includes : List Include) (s : Session), ctx.scope = scope →
      ctx.evaluate = Rule.evaluate →
      (∀ pattern ∈ ctx.lookups includes,
        Agree ((v.tree root).search pattern) ((Trees.ofList all).search scope pattern) ∧
        (Glob.IsPattern pattern ∨ Path.trimSlashes pattern = pattern)) →
      runOn ((ctx.withRepository (v.tree root).repository).resolve includes) s =
        runOn ((ctx.withRepository (Trees.ofList all).repository).resolve includes) s := by
  refine ⟨search_tree_eq_iff hroot h hall, agree_search_iff hroot h hall, ?_⟩
  rintro ctx includes s rfl hevaluate hlookups
  have hsame : ∀ pattern ∈ ctx.lookups includes, (v.tree root).search pattern =
      (Trees.ofList all).search ctx.scope pattern := fun pattern hpattern => by
    obtain ⟨hagree, hquoted⟩ := hlookups pattern hpattern
    exact search_tree_eq_of_agree hroot h hall hagree hquoted
  exact @runOn_resolve_congr (ctx.withRepository (Trees.ofList all).repository)
    (v.tree root).repository includes hevaluate hsame s

/-- A directory with a link, a directory named `.git` and one of its own, beside a repository that has
a file of another project as well: all files with a slash in front of the pattern, none in a
directory that is not there, and an include with a wildcard. -/
theorem agrees_with_trees_nested :
    let app : Scope := ⟨"group/app", "sha1"⟩
    let directory : Node := .directory [("b.yml", .file []), ("link.yml", .link "b.yml"),
      (".git", .directory [("c.yml", .file [])]), ("ci", .directory [("a.yml", .file [])])]
    let v : Volume := { top := .directory [("repo", directory)] }
    let paths := ["b.yml", "ci/a.yml"]
    let all := [(app, "ci/a.yml"), (⟨"group/lib", "v2"⟩, "d.yml"), (app, "b.yml")]
    let ctx : Context := { scope := app }
    v.Holds "/repo" paths ∧ (∀ path, path ∈ paths ↔ (app, path) ∈ all) ∧
    (v.tree "/repo").search "/**/*.yml" = (Trees.ofList all).search app "**/*.yml" ∧
    (Trees.ofList all).search app "**/*.yml" = .ok ["b.yml", "ci/a.yml"] ∧
    Agree ((v.tree "/repo").search "/x/*") ((Trees.ofList all).search app "/x/*") ∧
    runOn ((ctx.withRepository (v.tree "/repo").repository).resolve [.path "*/*.yml"]) {} =
      runOn ((ctx.withRepository (Trees.ofList all).repository).resolve [.path "*/*.yml"]) {} := by
  intro app directory v paths all ctx
  have hfile : ∀ name : String, ∀ entry ∈ [(name, Node.file [])], entry.2.WellNamed := by
    simp [Node.WellNamed.file]
  have hnamed : directory.WellNamed := by
    refine .directory (by decide) (by decide) ?_
    simp only [List.forall_mem_cons]
    exact ⟨.file _, .link _, .directory (by decide) (by decide) (hfile _),
      .directory (by decide) (by decide) (hfile _), nofun⟩
  have hwalk : v.walk 40 [] (Path.parts "/repo") = .ok ["repo"] := by
    rw [show Path.parts "/repo" = ["", "repo"] by decide +kernel]
    cbv
  have hholds : v.Holds "/repo" paths := by
    refine ⟨_, ?_, Node.Holds.of_files hnamed⟩
    exact Volume.find_of_walk (by decide) (by decide) (by decide) hwalk rfl
  have hall : ∀ path, path ∈ paths ↔ (app, path) ∈ all := by
    simp [paths, all, app, or_comm]
  obtain ⟨hsearch, hagree, hresolve⟩ := agrees_with_trees (by decide) hholds hall
  have htrim : Path.trimSlashes "/**/*.yml" = "**/*.yml" := by decide +kernel
  refine ⟨hholds, hall, htrim ▸ (hsearch "/**/*.yml").mpr nofun, by decide +kernel, ?_, ?_⟩
  · exact (hagree "/x/*").mpr ⟨nofun, .inr (by decide +kernel)⟩
  · refine hresolve ctx [.path "*/*.yml"] {} rfl rfl ?_
    have hlookups : ctx.lookups [.path "*/*.yml"] = ["*/*.yml"] := by decide +kernel
    rw [hlookups]
    intro pattern hpattern
    obtain rfl := List.mem_singleton.mp hpattern
    have htrim : Path.trimSlashes "*/*.yml" = "*/*.yml" := by decide +kernel
    exact ⟨(hagree _).mpr ⟨nofun, .inl htrim⟩, .inr htrim⟩

/-- **Where the two part.** A slash at the start of a pattern is dropped by the tree only; a malformed
pattern is refused by the tree only if there is no file; and a directory that is itself named `.git`
is not looked into. -/
theorem answers_differ :
    let scope : Scope := ⟨"group/app", "sha1"⟩
    let directory : Node := .directory [("a.yml", .file [])]
    let v : Volume :=
      { top := .directory [("repo", directory), ("empty", .directory []), (".git", directory)] }
    (v.Holds "/repo" ["a.yml"] ∧ ¬ Agree ((v.tree "/repo").search "/*.yml")
      ((Trees.ofList [(scope, "a.yml")]).search scope "/*.yml")) ∧
    (v.Holds "/empty" [] ∧ ¬ Agree ((v.tree "/empty").search "[*.yml")
      ((Trees.ofList []).search scope "[*.yml")) ∧
    (v.Holds "/.git" ["a.yml"] ∧ ¬ Agree ((v.tree "/.git").search "*.yml")
      ((Trees.ofList [(scope, "a.yml")]).search scope "*.yml")) := by
  intro scope directory v
  have hone : directory.Holds ["a.yml"] :=
    Node.Holds.of_files (.directory (by decide) (by decide) (by simp [Node.WellNamed.file]))
  have hnone : (Node.directory []).Holds [] :=
    Node.Holds.of_files (.directory (by decide) (by decide) (by simp))
  have hparts : Path.parts "/repo" = ["", "repo"] ∧ Path.parts "/empty" = ["", "empty"] ∧
      Path.parts "/.git" = ["", ".git"] := by decide +kernel
  have hwalk : v.walk 40 [] ["", "repo"] = .ok ["repo"] ∧
      v.walk 40 [] ["", "empty"] = .ok ["empty"] ∧ v.walk 40 [] ["", ".git"] = .ok [".git"] := by
    refine ⟨?_, ?_, ?_⟩ <;> cbv
  rw [← hparts.1, ← hparts.2.1, ← hparts.2.2] at hwalk
  have hrepo : v.Holds "/repo" ["a.yml"] :=
    ⟨_, Volume.find_of_walk (by decide) (by decide) (by decide) hwalk.1 rfl, hone⟩
  have hempty : v.Holds "/empty" [] :=
    ⟨_, Volume.find_of_walk (by decide) (by decide) (by decide) hwalk.2.1 rfl, hnone⟩
  have hgit : v.Holds "/.git" ["a.yml"] :=
    ⟨_, Volume.find_of_walk (by decide) (by decide) (by decide) hwalk.2.2 rfl, hone⟩
  refine ⟨⟨hrepo, ?_⟩, ⟨hempty, ?_⟩, ⟨hgit, ?_⟩⟩
  · have hmemory : (Trees.ofList [(scope, "a.yml")]).search scope "/*.yml" = .ok [] := by
      decide +kernel
    rw [search_tree hrepo, hmemory, agree_ok_iff]
    decide +kernel
  · have hmemory : (Trees.ofList []).search scope "[*.yml" = .ok [] := by decide +kernel
    rw [search_tree hempty, hmemory, agree_ok_iff]
    decide +kernel
  · have hmemory : (Trees.ofList [(scope, "a.yml")]).search scope "*.yml" = .ok ["a.yml"] := by
      decide +kernel
    rw [search_tree hgit, hmemory, agree_ok_iff]
    decide +kernel

end WorkingTree

end IncludeTree
