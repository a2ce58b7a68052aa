import IncludeTree.Rule
import IncludeTree.Url.Basic
import IncludeTree.Variables.Basic

/-!
# Include directives

A `Directive` is one include in record form. Which of its driving fields are set decides the kind of
source it stands for; until it has been classified any combination may occur. An `Include` is an
entry as its author wrote it, a bare string or a directive.
-/

namespace IncludeTree

/-- The files of a project that a directive names. -/
inductive Files where
  /-- A single path. -/
  | one (path : String)
  /-- A list of paths. -/
  | many (paths : List String)
deriving DecidableEq, Repr

/-- One include in record form. -/
structure Directive where
  /-- A path in the repository of the including file; it may be a wildcard. -/
  localPath : Option String := none
  /-- A URL. -/
  remote : Option String := none
  /-- The name of a template. -/
  template : Option String := none
  /-- The path of another project. -/
  project : Option String := none
  /-- The path of an artifact. -/
  artifact : Option String := none
  /-- The job that makes the artifact. -/
  job : Option String := none
  /-- The files wanted from the other project. -/
  file : Option Files := none
  /-- The revision wanted of the other project. -/
  ref : Option String := none
  /-- The rules that guard the include. -/
  rules : Option (List Rule) := none
deriving DecidableEq, Repr, Inhabited

/-- An entry as its author wrote it. -/
inductive Include where
  /-- A bare string, a URL or a path. -/
  | path (text : String)
  /-- A record. -/
  | directive (d : Directive)
deriving DecidableEq, Repr

namespace Files

/-- The paths as a list. -/
def paths : Files → List String
  | one path => [path]
  | many paths => paths

/-- The path, if it was written as a single one. -/
def single? : Files → Option String
  | one path => some path
  | many _ => none

/-- Applies a function to every path. -/
def map (f : String → String) : Files → Files
  | one path => one (f path)
  | many paths => many (paths.map f)

end Files

namespace Directive

/-- The directive for a path in the repository. -/
def ofLocal (path : String) : Directive := { localPath := some path }

/-- The directive for a URL. -/
def ofRemote (url : String) : Directive := { remote := some url }

/-- The directive for a template. -/
def ofTemplate (name : String) : Directive := { template := some name }

/-- The directive for a list of files of a project. -/
def ofProject (project : String) (files : List String) : Directive :=
  { project := some project, file := some (.many files) }

/-- The directive for an artifact of a job. -/
def ofArtifact (path job : String) : Directive := { artifact := some path, job := some job }

/-- The directive for a bare text: a URL or a path. -/
def ofText (text : String) : Directive := if isUrl text then ofRemote text else ofLocal text

/-- The local path, if it is a wildcard, that is, holds a star. -/
def wildcard? (d : Directive) : Option String := d.localPath.filter (·.toList.contains '*')

/-- One directive for each file of a project, in order. A directive without a project or without any
file stands for itself. -/
def fanOut (d : Directive) : List Directive :=
  match d.project, d.file with
  | some _, some files =>
    if files.paths.isEmpty then [d]
    else files.paths.map fun path => { d with file := some (.one path) }
  | _, _ => [d]

/-- Applies a function to every text of the directive; the rules stay as they are. -/
def mapText (f : String → String) (d : Directive) : Directive where
  localPath := d.localPath.map f
  remote := d.remote.map f
  template := d.template.map f
  project := d.project.map f
  artifact := d.artifact.map f
  job := d.job.map f
  file := d.file.map (Files.map f)
  ref := d.ref.map f
  rules := d.rules

@[simp] theorem wildcard?_ofLocal (path : String) :
    (ofLocal path).wildcard? = if path.toList.contains '*' then some path else none := rfl

theorem wildcard?_of_star {d : Directive} {path : String} (h : d.localPath = some path)
    (hstar : '*' ∈ path.toList) : d.wildcard? = some path := by
  simp [wildcard?, h, hstar]

theorem fanOut_of_project_none {d : Directive} (h : d.project = none) : d.fanOut = [d] := by
  unfold fanOut
  rw [h]

theorem fanOut_of_one {d : Directive} {path : String} (h : d.file = some (.one path)) :
    d.fanOut = [d] := by
  rcases d with ⟨_, _, _, _ | project, _, _, file, _, _⟩
  · rfl
  · obtain rfl := h
    rfl

theorem fanOut_of_files {d : Directive} {project : String} {files : Files}
    (hproject : d.project = some project) (hfile : d.file = some files) (hne : files.paths ≠ []) :
    d.fanOut = files.paths.map fun path => { d with file := some (.one path) } := by
  unfold fanOut
  rw [hproject, hfile]
  simp [hne]

/-- The directive with the variables put in every text; the rules stay as they were written. -/
def interpolate (vars : Variables) (d : Directive) : Directive := d.mapText vars.expand

end Directive

end IncludeTree
