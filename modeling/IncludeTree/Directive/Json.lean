import IncludeTree.Directive.Basic
import IncludeTree.Json.Printer

/-!
# Directives in JSON

Each record is written as an object without its absent fields, in a fixed order of keys, and read
from an object with any order of keys, or from a list that gives the fields by position. A bare
string is a path include; what is neither a string nor a directive has no form.
`Include.listOfDocument` reads the includes of a whole pipeline document.
-/

namespace IncludeTree

namespace Files

/-- The JSON form of a file choice: a string or a list of strings. -/
def encode : Files → Json
  | one path => .str path
  | many paths => .arr (paths.map Json.str)

/-- A file choice from its JSON form. -/
def decode : Json → Except Json.DecodeError Files
  | .str s => .ok (one s)
  | v =>
    match Json.toList Json.toText v with
    | .ok paths => .ok (many paths)
    | .error _ => .error (.noForm "FileSpec")

end Files

namespace Directive

/-- The members of the JSON form of a directive. -/
def members (d : Directive) : List (String × Json) :=
  Json.optionalMember "local" Json.str d.localPath
    ++ Json.optionalMember "remote" Json.str d.remote
    ++ Json.optionalMember "template" Json.str d.template
    ++ Json.optionalMember "project" Json.str d.project
    ++ Json.optionalMember "artifact" Json.str d.artifact
    ++ Json.optionalMember "job" Json.str d.job
    ++ Json.optionalMember "file" Files.encode d.file
    ++ Json.optionalMember "ref" Json.str d.ref
    ++ Json.optionalMember "rules" (fun rules => .arr (rules.map Rule.encode)) d.rules

/-- The JSON form of a directive. -/
def encode (d : Directive) : Json := .obj d.members

/-- The JSON text of a directive, as messages show it. -/
def text (d : Directive) : String := d.encode.compact

/-- The keys of a directive, in the order of a positional list. -/
def keys : List String :=
  ["local", "remote", "template", "project", "artifact", "job", "file", "ref", "rules"]

/-- The directive with the field of a key set from a JSON value; other keys change nothing. -/
def setField (d : Directive) (key : String) (v : Json) : Except Json.DecodeError Directive :=
  let text := Json.toOptional Json.toText v
  if key = "local" then text.map fun a => { d with localPath := a }
  else if key = "remote" then text.map fun a => { d with remote := a }
  else if key = "template" then text.map fun a => { d with template := a }
  else if key = "project" then text.map fun a => { d with project := a }
  else if key = "artifact" then text.map fun a => { d with artifact := a }
  else if key = "job" then text.map fun a => { d with job := a }
  else if key = "file" then (Json.toOptional Files.decode v).map fun a => { d with file := a }
  else if key = "ref" then text.map fun a => { d with ref := a }
  else if key = "rules" then
    (Json.toOptional (Json.toList Rule.decode) v).map fun a => { d with rules := a }
  else .ok d

/-- A directive from its JSON form. -/
def decode : Json → Except Json.DecodeError Directive :=
  Json.toRecord "Location" keys setField {}

end Directive

namespace Include

/-- The JSON form of an include. -/
def encode : Include → Json
  | path text => .str text
  | directive d => d.encode

/-- An include from its JSON form. -/
def decode : Json → Except Json.DecodeError Include
  | .str s => .ok (path s)
  | v =>
    match Directive.decode v with
    | .ok d => .ok (directive d)
    | .error _ => .error (.noForm "RawInclude")

/-- The includes of a JSON pipeline document, under its key `include`: a list, whose `null` items
are passed over, or a single entry, or nothing. -/
def listOfDocument (document : Json) : Except Json.DecodeError (List Include) :=
  match document.member? "include" with
  | none | some .null => .ok []
  | some (.arr items) => Json.toItems decode (items.filter (!·.isNull))
  | some v => Json.toItems decode [v]

end Include

end IncludeTree
