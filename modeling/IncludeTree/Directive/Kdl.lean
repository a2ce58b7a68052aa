import IncludeTree.Error
import IncludeTree.Kdl.Document

/-!
# Directives in KDL

A pipeline document in KDL has its includes in nodes named `include`. A node with an argument is a
path include and has nothing else; any other is a directive whose texts are properties, of which
`file` may be given several times. A child `file` gives a list of files and a child `rules` the
rules, one node each. Of several properties or children that give the same, the last counts.
-/

namespace IncludeTree

/-- Reading an include node fails with a fault. -/
abbrev Faulty := Except DirectiveFault

namespace Rule

/-- The rule with the clause of an entry added. -/
def addEntry (r : Rule) : Kdl.Entry → Faulty Rule
  | .argument _ => .error .ruleArgument
  | .property key v =>
    match v.string? with
    | none => .error (.rulePropertyNotString key)
    | some s =>
      if key = "if" then .ok { r with condition := some s }
      else if key = "exists" then .ok { r with paths := r.paths ++ [s] }
      else if key = "when" then
        match When.ofWord? s with
        | some w => .ok { r with when := some w }
        | none => .error (.unknownWhen s)
      else .error (.unknownRuleProperty key)

/-- The rule with the clauses of entries added one after the other. -/
def addEntries (r : Rule) : List Kdl.Entry → Faulty Rule
  | [] => .ok r
  | e :: rest =>
    match r.addEntry e with
    | .ok r => r.addEntries rest
    | .error fault => .error fault

/-- A rule from its node; children named `exists` add their string arguments to its patterns. -/
def ofNode (n : Kdl.Node) : Faulty Rule :=
  match addEntries {} n.entries with
  | .error fault => .error fault
  | .ok r =>
    let more := (n.children.getD []).filter (·.name == "exists")
    .ok { r with paths := r.paths ++ more.flatMap Kdl.Node.stringArguments }

/-- Rules from their nodes. -/
def ofNodes : List Kdl.Node → Faulty (List Rule)
  | [] => .ok []
  | n :: rest =>
    if n.name = "rule" then
      match ofNode n with
      | .error fault => .error fault
      | .ok r =>
        match ofNodes rest with
        | .error fault => .error fault
        | .ok rs => .ok (r :: rs)
    else .error (.unknownRuleNode n.name)

end Rule

/-- The files with one more. -/
def Files.add (files : Option Files) (path : String) : Files :=
  match files with
  | none => .one path
  | some files => .many (files.paths ++ [path])

namespace Directive

/-- The directive with the field of an entry set. -/
def addEntry (d : Directive) : Kdl.Entry → Faulty Directive
  | .argument _ => .error .pathNotAlone
  | .property key v =>
    match v.string? with
    | none => .error (.propertyNotString key)
    | some s =>
      if key = "local" then .ok { d with localPath := some s }
      else if key = "remote" then .ok { d with remote := some s }
      else if key = "template" then .ok { d with template := some s }
      else if key = "project" then .ok { d with project := some s }
      else if key = "artifact" then .ok { d with artifact := some s }
      else if key = "job" then .ok { d with job := some s }
      else if key = "ref" then .ok { d with ref := some s }
      else if key = "file" then .ok { d with file := some (Files.add d.file s) }
      else .error (.unknownProperty key)

/-- The directive with the fields of entries set one after the other. -/
def addEntries (d : Directive) : List Kdl.Entry → Faulty Directive
  | [] => .ok d
  | e :: rest =>
    match d.addEntry e with
    | .ok d => d.addEntries rest
    | .error fault => .error fault

/-- The directive with the field of a child node set. -/
def addChild (d : Directive) (n : Kdl.Node) : Faulty Directive :=
  if n.name = "file" then .ok { d with file := some (.many n.stringArguments) }
  else if n.name = "rules" then
    match Rule.ofNodes (n.children.getD []) with
    | .ok rules => .ok { d with rules := some rules }
    | .error fault => .error fault
  else .error (.unknownChild n.name)

/-- The directive with the fields of child nodes set one after the other. -/
def addChildren (d : Directive) : List Kdl.Node → Faulty Directive
  | [] => .ok d
  | n :: rest =>
    match d.addChild n with
    | .ok d => d.addChildren rest
    | .error fault => .error fault

end Directive

namespace Include

/-- An include from its node. -/
def ofNode (n : Kdl.Node) : Faulty Include :=
  match n.arguments with
  | [] =>
    match Directive.addEntries {} n.entries with
    | .error fault => .error fault
    | .ok d =>
      match d.addChildren (n.children.getD []) with
      | .error fault => .error fault
      | .ok d => .ok (directive d)
  | v :: more =>
    if !more.isEmpty || n.entries.any Kdl.Entry.isProperty || n.children.isSome then
      .error .pathNotAlone
    else match v.string? with
      | some s => .ok (path s)
      | none => .error .pathNotString

/-- The includes of a document, from its nodes; nodes with other names are passed over. -/
def listOfNodes : List Kdl.Node → Faulty (List Include)
  | [] => .ok []
  | n :: rest =>
    if n.name = "include" then
      match ofNode n with
      | .error fault => .error fault
      | .ok i =>
        match listOfNodes rest with
        | .error fault => .error fault
        | .ok is => .ok (i :: is)
    else listOfNodes rest

/-- The includes of a pipeline document in KDL, from its text. -/
def listOfText (text : String) : Except ResolveError (List Include) :=
  match Kdl.parse? text with
  | none => .error .unreadable
  | some nodes =>
    match listOfNodes nodes with
    | .ok includes => .ok includes
    | .error fault => .error (.malformed fault)

end Include

end IncludeTree
