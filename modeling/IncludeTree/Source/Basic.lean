import IncludeTree.Directive.Basic
import IncludeTree.Scope
import IncludeTree.Text.Blank
import IncludeTree.Url.Basic

/-!
# Sources

A `Source` is one file to be included: its `Target`, of one of five kinds, and its `Origin`, the
directive and the scope that it came from. `Directive.targetOf?` reads a directive as a target of
one kind, and `Directive.classify?` as the only kind that it fits; a directive that fits none or
several has no source. `Directive.classify?_iff` is the rule in one line.
-/

namespace IncludeTree

/-- The kinds of sources. -/
inductive SourceKind where
  /-- A file behind a URL. -/
  | remote
  /-- A template that comes with the system. -/
  | template
  /-- A file of the including project. -/
  | localFile
  /-- A file of another project. -/
  | projectFile
  /-- A file that a job makes. -/
  | artifact
deriving DecidableEq, Repr

/-- Where a file is found. -/
inductive Target where
  /-- Behind a URL. -/
  | remote (url : Url)
  /-- Among the templates, by its name. -/
  | template (name : String)
  /-- In the including project, by its path. -/
  | localFile (path : String)
  /-- In another project, as a rule at a revision of its own. -/
  | projectFile (project file : String) (ref : Option String)
  /-- Among the artifacts of a job. -/
  | artifact (job path : String)
deriving DecidableEq, Repr

/-- Where an include was written. -/
structure Origin where
  /-- The directive, with the variables put in. -/
  directive : Directive
  /-- The scope of the including file. -/
  scope : Scope
deriving DecidableEq, Repr

/-- One file to be included. -/
structure Source where
  /-- Where the file is found. -/
  target : Target
  /-- Where the include was written. -/
  origin : Origin
deriving DecidableEq, Repr

namespace SourceKind

/-- The name of a kind. -/
def name : SourceKind → String
  | remote => "remote"
  | template => "template"
  | localFile => "local"
  | projectFile => "project"
  | artifact => "artifact"

/-- Every kind, in the order in which they are tried. -/
def all : List SourceKind := [remote, template, localFile, projectFile, artifact]

theorem mem_all (k : SourceKind) : k ∈ all := by cases k <;> simp [all]

end SourceKind

/-- The kind of a target. -/
def Target.kind : Target → SourceKind
  | remote _ => .remote
  | template _ => .template
  | localFile _ => .localFile
  | projectFile _ _ _ => .projectFile
  | artifact _ _ => .artifact

/-! ## Reading a directive as a source -/

namespace Directive

/-- The text of a field that is given and not blank. -/
def given (field : Option String) : Option String := field.filter (!Text.isBlankText ·)

/-- A directive read as a target of one kind. -/
def targetOf? (d : Directive) : SourceKind → Option Target
  | .remote => (given d.remote).bind fun url => (Url.parse? url).map .remote
  | .template => (given d.template).map .template
  | .localFile => (given d.localPath).map .localFile
  | .projectFile => do
    let project ← given d.project
    let file ← given (d.file.bind Files.single?)
    return .projectFile project file d.ref
  | .artifact => do
    let path ← given d.artifact
    let job ← given d.job
    return .artifact job path

/-- Every target that a directive can be read as. -/
def targets (d : Directive) : List Target := SourceKind.all.filterMap d.targetOf?

/-- The source of a directive that fits exactly one kind. -/
def classify? (scope : Scope) (d : Directive) : Option Source :=
  match d.targets with
  | [target] => some { target, origin := { directive := d, scope } }
  | _ => none

theorem classify?_iff {scope : Scope} {d : Directive} {s : Source} :
    d.classify? scope = some s ↔
      d.targets = [s.target] ∧ s.origin = { directive := d, scope } := by
  unfold classify?
  split
  · next t ht =>
    cases s
    simp only [Option.some.injEq, Source.mk.injEq, ht, List.cons.injEq, and_true]
    exact and_congr_right fun _ => eq_comm
  · next hne =>
    simp only [reduceCtorEq, false_iff, not_and]
    exact fun h => absurd h (hne s.target)

theorem classify?_origin {scope : Scope} {d : Directive} {s : Source}
    (h : d.classify? scope = some s) : s.origin = { directive := d, scope } :=
  (classify?_iff.mp h).2

end Directive

/-! ## What a source says of itself -/

namespace Source

/-- The kind of a source. -/
def kind (s : Source) : SourceKind := s.target.kind

/-- The text of a source, as messages show it. -/
def display (s : Source) : String :=
  match s.target with
  | .remote url => "remote `" ++ url.text ++ "`"
  | .template name => "template `" ++ name ++ "`"
  | .localFile path => "local `" ++ path ++ "` (" ++ s.origin.scope.display ++ ")"
  | .projectFile project file none => "project `" ++ project ++ "/" ++ file ++ "`"
  | .projectFile project file (some ref) =>
    "project `" ++ project ++ "/" ++ file ++ "` at `" ++ ref ++ "`"
  | .artifact job path => "artifact `" ++ path ++ "` of job `" ++ job ++ "`"

/-- The scope in which the includes of a file are looked up, unless whoever fetches it says
otherwise: that of the other project for a file of a project, and that of the including file for
any other. -/
def nestedScope (s : Source) : Scope :=
  match s.target with
  | .projectFile project _ ref => { project, revision := ref.getD "HEAD" }
  | _ => s.origin.scope

end Source

end IncludeTree
