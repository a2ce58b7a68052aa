import IncludeTree.Metrics
import IncludeTree.Source.Json

/-!
# The journal of an expansion

Resolving includes writes an `Event` for every stage that it enters while it is instrumented, for
every file that it asks for, and for everything that it reports to a log. `Journal` keeps them,
newest first; `Journal.count` is how often a stage was entered, and `Event.report?` what an event
says in a log.
-/

namespace IncludeTree

/-- The stages that are observed. -/
inductive Stage where
  /-- A whole resolution. -/
  | process
  /-- An entry is brought into record form. -/
  | normalize
  /-- The rules of a directive are evaluated. -/
  | rules
  /-- A wildcard is looked up. -/
  | wildcards
  /-- Variables are put in. -/
  | interpolate
  /-- A directive is recorded. -/
  | verify
  /-- A directive is classified. -/
  | select
deriving DecidableEq, Repr

namespace Stage

/-- Every stage, in the order of the names. -/
def all : List Stage := [normalize, process, rules, select, interpolate, verify, wildcards]

theorem mem_all (s : Stage) : s ∈ all := by cases s <;> simp [all]

/-- The name of the operation that a stage is observed as. -/
def operation : Stage → String
  | process => "config_mapper_process"
  | normalize => "config_mapper_normalize"
  | rules => "config_mapper_rules"
  | wildcards => "config_mapper_wildcards"
  | interpolate => "config_mapper_variables"
  | verify => "config_mapper_verify"
  | select => "config_mapper_select"

end Stage

/-- What happens while includes are resolved. -/
inductive Event where
  /-- A stage is entered. -/
  | started (stage : Stage)
  /-- A list of includes is about to be resolved. -/
  | resolving (scope : Scope) (count : Nat)
  /-- The rules of a directive dropped it. -/
  | skipped (d : Directive)
  /-- A wildcard matched no file. -/
  | unmatched (pattern : String) (scope : Scope)
  /-- A wildcard matched some files. -/
  | expanded (pattern : String) (count : Nat)
  /-- The content of a file is asked for. -/
  | fetching (source : Source) (depth : Nat)
  /-- A file was fetched and its includes were read. -/
  | included (source : Source) (depth nested : Nat)
deriving DecidableEq, Repr

/-- How loud a report is. -/
inductive Level where
  /-- For those who look for a fault. -/
  | debug
  /-- For everyone. -/
  | info
  /-- Likely a mistake of the author. -/
  | warn
deriving DecidableEq, Repr

/-- The name of a level. -/
def Level.name : Level → String
  | debug => "DEBUG"
  | info => "INFO"
  | warn => "WARN"

/-- An entry of a log. -/
structure Report where
  /-- How loud it is. -/
  level : Level
  /-- What happened. -/
  message : String
  /-- What it happened to. -/
  fields : List (String × Json)
deriving Repr

/-- What an event says in a log, if it says anything. -/
def Event.report? : Event → Option Report
  | started _ | fetching _ _ => none
  | resolving scope count => some {
      level := .debug, message := "Resolving includes"
      fields := [("scope", .str scope.display), ("count", .int count)] }
  | skipped d => some {
      level := .debug, message := "Include skipped by rules"
      fields := [("location", .str d.text)] }
  | unmatched pattern scope => some {
      level := .warn, message := "Wildcard include matched no files"
      fields := [("pattern", .str pattern), ("project", .str scope.project),
        ("revision", .str scope.revision)] }
  | expanded pattern count => some {
      level := .debug, message := "Expanded wildcard include"
      fields := [("pattern", .str pattern), ("matches", .int count)] }
  | included source depth nested => some {
      level := .info, message := "Included file"
      fields := [("file", .str source.display), ("depth", .int depth), ("nested", .int nested)] }

/-- The events of an expansion, newest first. -/
abbrev Journal := List Event

namespace Journal

/-- The events in the order in which they happened. -/
def inOrder (j : Journal) : List Event := j.reverse

/-- How often a stage was entered. -/
def count (j : Journal) (stage : Stage) : Nat := List.count (.started stage) j

/-- The metrics of the stages that were entered, in the order of their names, with how often. -/
def counts (j : Journal) : List (String × Nat) :=
  (Stage.all.map fun stage => (Metrics.durationName stage.operation, j.count stage)).filter
    (0 < ·.2)

end Journal

end IncludeTree
