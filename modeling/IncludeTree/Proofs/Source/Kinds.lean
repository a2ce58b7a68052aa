import IncludeTree.Proofs.Source.Classification

/-!
# The kinds that a directive fits

`Directive.Denotes d t` lists the ways in which a directive can be read as a target, and
`mem_targets` says that the classification finds just these. A kind reads some fields of a directive
and leaves the others alone; `Directive.unread kind d` is what it leaves. A target and what its kind
leaves make up the directive, but for the spelling of a URL (`Denotes.eq_of_unread_eq`).

`Directive.Fits d kind` says that a directive gives all that a kind reads, where any of the files of
a project will do. Once a directive has been split into one for each file, a part of it can be read
as a target of every kind that it fits (`exists_mem_fanOut`), so that a directive that fits two
kinds has a part that is no single kind of source (`exists_mem_fanOut_of_two_kinds`).
-/

namespace IncludeTree

theorem Files.single?_eq_some {files : Files} {path : String} :
    files.single? = some path ↔ files = .one path := by
  cases files <;> simp [single?]

theorem Files.paths_map (f : String → String) (files : Files) :
    (files.map f).paths = files.paths.map f := by
  cases files <;> rfl

namespace Directive

open Text (isBlankText)

variable {d e : Directive} {kind kind' : SourceKind} {t : Target}

/-! ## The targets of a directive -/

/-- The ways in which a directive can be read as a target. -/
inductive Denotes (d : Directive) : Target → Prop where
  /-- The file behind its URL. -/
  | remote {text url} :
      d.remote = some text → Url.parse? text = some url → Denotes d (.remote url)
  /-- The template that it names. -/
  | template {name} :
      d.template = some name → isBlankText name = false → Denotes d (.template name)
  /-- The file of the including project at its path. -/
  | localFile {path} :
      d.localPath = some path → isBlankText path = false → Denotes d (.localFile path)
  /-- The only file that it names of its project. -/
  | projectFile {project path} :
      d.project = some project → isBlankText project = false →
      d.file = some (.one path) → isBlankText path = false →
      Denotes d (.projectFile project path d.ref)
  /-- The file that its job makes. -/
  | artifact {job path} :
      d.artifact = some path → isBlankText path = false →
      d.job = some job → isBlankText job = false →
      Denotes d (.artifact job path)

theorem given_eq_some {field : Option String} {text : String} :
    given field = some text ↔ field = some text ∧ isBlankText text = false := by
  simp [given, Option.filter_eq_some_iff]

/-- What a kind reads a directive as is of the kind, and the directive denotes it. -/
theorem denotes_of_targetOf? (h : d.targetOf? kind = some t) : t.kind = kind ∧ d.Denotes t := by
  cases kind with
  | remote =>
    obtain ⟨text, htext, hurl⟩ := Option.bind_eq_some_iff.mp h
    obtain ⟨url, hparse, rfl⟩ := Option.map_eq_some_iff.mp hurl
    exact ⟨rfl, .remote (given_eq_some.mp htext).1 hparse⟩
  | template =>
    obtain ⟨name, hname, rfl⟩ := Option.map_eq_some_iff.mp h
    exact ⟨rfl, .template (given_eq_some.mp hname).1 (given_eq_some.mp hname).2⟩
  | localFile =>
    obtain ⟨path, hpath, rfl⟩ := Option.map_eq_some_iff.mp h
    exact ⟨rfl, .localFile (given_eq_some.mp hpath).1 (given_eq_some.mp hpath).2⟩
  | projectFile =>
    obtain ⟨project, hproject, h⟩ := Option.bind_eq_some_iff.mp h
    obtain ⟨path, hpath, h⟩ := Option.bind_eq_some_iff.mp h
    obtain rfl := Option.some.inj h
    obtain ⟨hsingle, hblank⟩ := given_eq_some.mp hpath
    obtain ⟨files, hfiles, hone⟩ := Option.bind_eq_some_iff.mp hsingle
    obtain rfl := Files.single?_eq_some.mp hone
    exact ⟨rfl, .projectFile (given_eq_some.mp hproject).1 (given_eq_some.mp hproject).2
      hfiles hblank⟩
  | artifact =>
    obtain ⟨path, hpath, h⟩ := Option.bind_eq_some_iff.mp h
    obtain ⟨job, hjob, h⟩ := Option.bind_eq_some_iff.mp h
    obtain rfl := Option.some.inj h
    exact ⟨rfl, .artifact (given_eq_some.mp hpath).1 (given_eq_some.mp hpath).2
      (given_eq_some.mp hjob).1 (given_eq_some.mp hjob).2⟩

/-- The kind of what a directive denotes reads it as that. -/
theorem targetOf?_of_denotes (h : d.Denotes t) : d.targetOf? t.kind = some t := by
  cases h with
  | @remote text url htext hparse =>
    have hblank : isBlankText text = false := by
      cases hb : isBlankText text with
      | false => rfl
      | true => cases (Url.parse?_of_isBlankText hb).symm.trans hparse
    simp [targetOf?, Target.kind, given_eq_some.mpr ⟨htext, hblank⟩, hparse]
  | template hname hblank =>
    simp [targetOf?, Target.kind, given_eq_some.mpr ⟨hname, hblank⟩]
  | localFile hpath hblank =>
    simp [targetOf?, Target.kind, given_eq_some.mpr ⟨hpath, hblank⟩]
  | @projectFile project path hproject hpblank hfile hfblank =>
    have hpath : given (d.file.bind Files.single?) = some path := by
      rw [hfile]
      exact given_eq_some.mpr ⟨rfl, hfblank⟩
    simp [targetOf?, Target.kind, given_eq_some.mpr ⟨hproject, hpblank⟩, hpath]
  | artifact hpath hpblank hjob hjblank =>
    simp [targetOf?, Target.kind, given_eq_some.mpr ⟨hpath, hpblank⟩,
      given_eq_some.mpr ⟨hjob, hjblank⟩]

/-- The targets of a directive are those that it denotes. -/
theorem mem_targets : t ∈ d.targets ↔ d.Denotes t := by
  unfold targets
  rw [List.mem_filterMap]
  constructor
  · rintro ⟨kind, -, h⟩
    exact (denotes_of_targetOf? h).2
  · intro h
    exact ⟨t.kind, t.kind.mem_all, targetOf?_of_denotes h⟩

/-- A directive that denotes targets of two kinds is no single kind of source. -/
theorem length_targets_ne_one {t' : Target} (h : d.Denotes t) (h' : d.Denotes t')
    (hne : t.kind ≠ t'.kind) : d.targets.length ≠ 1 := by
  intro hone
  obtain ⟨only, honly⟩ := List.length_eq_one_iff.mp hone
  have heq : t = only := by simpa [honly] using mem_targets.mpr h
  have heq' : t' = only := by simpa [honly] using mem_targets.mpr h'
  exact hne (by rw [heq, heq'])

/-! ## What a kind leaves alone -/

/-- The directive without the fields that a kind reads. -/
def unread (kind : SourceKind) (d : Directive) : Directive :=
  match kind with
  | .remote => { d with remote := none }
  | .template => { d with template := none }
  | .localFile => { d with localPath := none }
  | .projectFile => { d with project := none, file := none, ref := none }
  | .artifact => { d with artifact := none, job := none }

/-- **A target and what its kind leaves make up the directive.** Of a remote target the text of the
URL has to be the same as well, since different texts are read as one URL. -/
theorem Denotes.eq_of_unread_eq (h : d.Denotes t) (h' : e.Denotes t)
    (hunread : d.unread t.kind = e.unread t.kind)
    (hspelling : t.kind = .remote → d.remote = e.remote) : d = e := by
  cases d
  cases e
  cases h <;> cases h' <;> simp_all [unread, Target.kind]

/-! ## Fitting a kind before the files are told apart -/

/-- Whether a directive gives all that a kind reads; one of several files is enough. -/
inductive Fits (d : Directive) : SourceKind → Prop where
  /-- Its URL is one. -/
  | remote {text} : d.remote = some text → isUrl text = true → Fits d .remote
  /-- It names a template. -/
  | template {name} : d.template = some name → isBlankText name = false → Fits d .template
  /-- It gives a path. -/
  | localFile {path} : d.localPath = some path → isBlankText path = false → Fits d .localFile
  /-- It names a project and a file of it. -/
  | projectFile {project files path} :
      d.project = some project → isBlankText project = false →
      d.file = some files → path ∈ files.paths → isBlankText path = false →
      Fits d .projectFile
  /-- It names a job and what the job makes. -/
  | artifact {path job} :
      d.artifact = some path → isBlankText path = false →
      d.job = some job → isBlankText job = false →
      Fits d .artifact

/-- Which files are named matters to no other kind. -/
theorem Fits.denotes_of_ne (h : d.Fits kind) (hne : kind ≠ .projectFile) (file : Option Files) :
    ∃ t, t.kind = kind ∧ { d with file }.Denotes t := by
  cases h with
  | @remote text htext hurl =>
    obtain ⟨url, hparse⟩ := Option.isSome_iff_exists.mp hurl
    exact ⟨.remote url, rfl, .remote htext hparse⟩
  | @template name hname hblank => exact ⟨.template name, rfl, .template hname hblank⟩
  | @localFile path hpath hblank => exact ⟨.localFile path, rfl, .localFile hpath hblank⟩
  | projectFile => contradiction
  | @artifact path job hpath hpblank hjob hjblank =>
    exact ⟨.artifact job path, rfl, .artifact hpath hpblank hjob hjblank⟩

theorem exists_file_mem_fanOut (d : Directive) : ∃ file, { d with file } ∈ d.fanOut := by
  unfold fanOut
  split
  · next project files _ hfile =>
    split
    · exact ⟨d.file, List.mem_singleton.mpr rfl⟩
    · next hne =>
      obtain ⟨path, hpath⟩ := List.exists_mem_of_ne_nil files.paths (by simpa using hne)
      exact ⟨some (.one path), List.mem_map.mpr ⟨path, hpath, rfl⟩⟩
  · exact ⟨d.file, List.mem_singleton.mpr rfl⟩

theorem eq_of_mem_fanOut (h : e ∈ d.fanOut) : ∃ file, e = { d with file } := by
  unfold fanOut at h
  split at h
  · split at h
    · exact ⟨d.file, List.mem_singleton.mp h⟩
    · obtain ⟨path, -, rfl⟩ := List.mem_map.mp h
      exact ⟨some (.one path), rfl⟩
  · exact ⟨d.file, List.mem_singleton.mp h⟩

/-- Some part of a directive can be read as a target of every kind that the directive fits. -/
theorem exists_mem_fanOut (d : Directive) :
    ∃ part ∈ d.fanOut, ∀ kind, d.Fits kind → ∃ t, t.kind = kind ∧ part.Denotes t := by
  by_cases hfits : d.Fits .projectFile
  · cases hfits with
    | @projectFile project files path hproject hpblank hfile hpath hblank =>
      refine ⟨{ d with file := some (.one path) }, ?_, fun kind h => ?_⟩
      · rw [fanOut_of_files hproject hfile (List.ne_nil_of_mem hpath)]
        exact List.mem_map.mpr ⟨path, hpath, rfl⟩
      · by_cases hkind : kind = .projectFile
        · subst hkind
          exact ⟨.projectFile project path d.ref, rfl, .projectFile hproject hpblank rfl hblank⟩
        · exact h.denotes_of_ne hkind _
  · obtain ⟨file, hmem⟩ := d.exists_file_mem_fanOut
    exact ⟨_, hmem, fun kind h => h.denotes_of_ne (fun hkind => hfits (hkind ▸ h)) file⟩

/-- A directive that fits two kinds has a part that is no single kind of source. -/
theorem exists_mem_fanOut_of_two_kinds (h : d.Fits kind) (h' : d.Fits kind') (hne : kind ≠ kind') :
    ∃ part ∈ d.fanOut, part.targets.length ≠ 1 := by
  obtain ⟨part, hpart, hall⟩ := d.exists_mem_fanOut
  obtain ⟨t, rfl, ht⟩ := hall kind h
  obtain ⟨t', rfl, ht'⟩ := hall kind' h'
  exact ⟨part, hpart, length_targets_ne_one ht ht' hne⟩

/-! ## Splitting and rewriting a directive -/

/-- Texts can be rewritten before or after a directive is split into one for each file. -/
theorem fanOut_mapText (f : String → String) (d : Directive) :
    (d.mapText f).fanOut = d.fanOut.map (mapText f) := by
  cases hproject : d.project with
  | none => simp [fanOut, mapText, hproject]
  | some project =>
    cases hfile : d.file with
    | none => simp [fanOut, mapText, hproject, hfile]
    | some files =>
      have hproject' : (d.mapText f).project = some (f project) := by simp [mapText, hproject]
      have hfile' : (d.mapText f).file = some (files.map f) := by simp [mapText, hfile]
      by_cases hempty : files.paths = []
      · simp [fanOut, hproject, hproject', hfile, hfile', Files.paths_map, hempty]
      · have hempty' : (files.map f).paths ≠ [] := by simpa [Files.paths_map] using hempty
        rw [fanOut_of_files hproject hfile hempty, fanOut_of_files hproject' hfile' hempty',
          Files.paths_map, List.map_map, List.map_map]
        rfl

theorem wildcard?_of_no_star (h : ∀ path ∈ d.localPath, '*' ∉ path.toList) :
    d.wildcard? = none := by
  simpa [wildcard?, Option.filter_eq_none_iff] using h

end Directive

end IncludeTree
