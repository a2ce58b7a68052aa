/-!
# Scopes

A `Scope` is a project at a revision: what relative paths are looked up in and what keeps equal
directives of different projects apart. It is shown as the project and the abbreviated revision.
-/

namespace IncludeTree

/-- A project at a revision. -/
structure Scope where
  /-- The full path of the project. -/
  project : String
  /-- The revision, as a rule a commit hash. -/
  revision : String
deriving DecidableEq, Repr, Inhabited

namespace Scope

/-- The first seven characters of a revision. -/
def abbreviate (revision : String) : String :=
  String.ofList (revision.toList.take 7)

/-- The text of a scope. -/
def display (s : Scope) : String :=
  s.project ++ "@" ++ abbreviate s.revision

end Scope

end IncludeTree
