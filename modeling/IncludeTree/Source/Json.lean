import IncludeTree.Directive.Json
import IncludeTree.Source.Basic

/-!
# Sources in JSON

A source is written as an object that starts with its kind and ends with its origin.
-/

namespace IncludeTree

/-- The JSON form of a scope. -/
def Scope.encode (s : Scope) : Json :=
  .obj [("project", .str s.project), ("revision", .str s.revision)]

/-- The JSON form of an origin. -/
def Origin.encode (o : Origin) : Json :=
  .obj [("location", o.directive.encode), ("scope", o.scope.encode)]

/-- The members of the JSON form of a target. -/
def Target.members : Target → List (String × Json)
  | .remote url => [("url", .str url.text)]
  | .template name => [("name", .str name)]
  | .localFile path => [("path", .str path)]
  | .projectFile project file ref =>
    [("project", .str project), ("file", .str file)] ++ Json.optionalMember "ref" Json.str ref
  | .artifact job path => [("job", .str job), ("path", .str path)]

/-- The JSON form of a source. -/
def Source.encode (s : Source) : Json :=
  .obj (("type", .str s.kind.name) :: s.target.members ++ [("origin", s.origin.encode)])

end IncludeTree
