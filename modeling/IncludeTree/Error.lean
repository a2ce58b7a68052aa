import IncludeTree.Directive.Json

/-!
# Errors

`SourceError` is what a repository, a rule evaluator or a fetcher reports, `DirectiveFault` what is
wrong with an include node of a pipeline document, and `ResolveError` every way in which resolving
includes can fail. Each has its wording in one function.
-/

namespace IncludeTree

/-- What a repository, a rule evaluator or a fetcher reports when it fails. -/
inductive SourceError where
  /-- The wanted thing does not exist. -/
  | notFound (text : String)
  /-- What was asked is malformed. -/
  | invalidInput (text : String)
  /-- A rule is malformed. -/
  | invalidRule (text : String)
  /-- The repository could not be searched. -/
  | repository (text : String)
  /-- What was asked is not supported. -/
  | unsupported (text : String)
deriving DecidableEq, Repr

/-- The wording of a report. -/
def SourceError.message : SourceError → String
  | notFound text => "not found: " ++ text
  | invalidInput text => "invalid input: " ++ text
  | invalidRule text => "invalid rule: " ++ text
  | repository text => "repository error: " ++ text
  | unsupported text => "unsupported: " ++ text

/-- What is wrong with an include node of a pipeline document. -/
inductive DirectiveFault where
  /-- A path include has more than its one argument. -/
  | pathNotAlone
  /-- The argument of a path include is not a string. -/
  | pathNotString
  /-- A property of an include is not a string. -/
  | propertyNotString (key : String)
  /-- An include has a property that it cannot have. -/
  | unknownProperty (key : String)
  /-- An include has a child node that it cannot have. -/
  | unknownChild (name : String)
  /-- A list of rules has a node that is not a rule. -/
  | unknownRuleNode (name : String)
  /-- A rule has an argument. -/
  | ruleArgument
  /-- A property of a rule is not a string. -/
  | rulePropertyNotString (key : String)
  /-- A rule has a property that it cannot have. -/
  | unknownRuleProperty (key : String)
  /-- The verdict of a rule is no known word. -/
  | unknownWhen (word : String)
deriving DecidableEq, Repr

namespace DirectiveFault

/-- The part of the document that a fault is reported for. -/
def field : DirectiveFault → String
  | pathNotAlone | pathNotString | unknownProperty _ | unknownChild _ => "include"
  | propertyNotString key => "include " ++ key
  | unknownRuleNode _ => "rules"
  | ruleArgument | unknownRuleProperty _ => "rule"
  | rulePropertyNotString key => "rule " ++ key
  | unknownWhen _ => "rule when"

/-- What a fault says about that part. -/
def detail : DirectiveFault → String
  | pathNotAlone => "a path include takes exactly one argument and nothing else"
  | pathNotString => "path must be a string"
  | propertyNotString _ | rulePropertyNotString _ => "expected a string"
  | unknownProperty key | unknownRuleProperty key => "unknown property '" ++ key ++ "'"
  | unknownChild name => "unknown child node '" ++ name ++ "'"
  | unknownRuleNode name => "unknown node '" ++ name ++ "'"
  | ruleArgument => "rules take properties, not arguments"
  | unknownWhen word => "unknown rule `when` value: " ++ word

end DirectiveFault

/-- A way in which resolving includes fails. -/
inductive ResolveError where
  /-- A pipeline document is not KDL. -/
  | unreadable
  /-- A JSON value denotes no include. -/
  | undecodable (error : Json.DecodeError)
  /-- An include node is malformed. -/
  | malformed (fault : DirectiveFault)
  /-- A directive matches no kind of source or more than one. -/
  | ambiguous (directive : Directive)
  /-- A directive was recorded before in the same scope. -/
  | duplicate (directive : Directive)
  /-- The ledger is full. -/
  | tooMany (limit : Nat)
  /-- The content of a resolved include could not be fetched. -/
  | fetch (file : String) (source : SourceError)
  /-- The repository or the rule evaluator failed. -/
  | collaborator (source : SourceError)
deriving Repr

/-- The wording of an error. -/
def ResolveError.message : ResolveError → String
  | unreadable => "KDL parse error: Failed to parse KDL document"
  | undecodable error => "JSON parse error: " ++ error.message
  | malformed fault => "invalid value for " ++ fault.field ++ ": " ++ fault.detail
  | ambiguous d => "include `" ++ d.text ++ "` needs to match exactly one accessor"
  | duplicate d => "include `" ++ d.text ++ "` was already included"
  | tooMany limit => "maximum of " ++ toString limit ++ " nested includes are allowed"
  | fetch file source => "failed to fetch " ++ file ++ ": " ++ source.message
  | collaborator source => source.message

end IncludeTree
