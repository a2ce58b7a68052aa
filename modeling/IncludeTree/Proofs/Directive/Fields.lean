import IncludeTree.Directive.Json
import Mathlib.Data.List.Nodup

/-!
# Directives by their fields

A directive is as good as the list of those of its fields that are given: `Directive.fields` lists
them and `Directive.put` sets one of them. Fields with different keys may be set in any order, so a
directive is put together again from its fields in any order (`Directive.foldl_put_of_perm`). What a
directive is written as, in either format, can then be said field by field. `Rule.Field` is the same
for rules.
-/

namespace IncludeTree

/-- Settings of fields with different keys may be made in any order. -/
theorem foldl_eq_of_perm {α φ : Type} {key : φ → String} {put : α → φ → α}
    (hcomm : ∀ a f g, key f ≠ key g → put (put a f) g = put (put a g) f) {fs gs : List φ}
    (hperm : fs.Perm gs) (hnodup : (fs.map key).Nodup) (a : α) :
    fs.foldl put a = gs.foldl put a := by
  refine hperm.foldl_eq' ?_ a
  intro f hf g hg b
  by_cases hkey : key f = key g
  · rw [List.inj_on_of_nodup_map hnodup hf hg hkey]
  · exact hcomm b f g hkey

/-! ## Rules -/

namespace Rule

/-- A field of a rule, with the value that is given for it. -/
inductive Field where
  | condition (text : String)
  | paths (paths : List String)
  | when (verdict : When)
deriving DecidableEq, Repr

/-- The key of a field. -/
def Field.key : Field → String
  | condition _ => "if"
  | paths _ => "exists"
  | when _ => "when"

/-- The rule with a field set. -/
def put (r : Rule) : Field → Rule
  | .condition text => { r with condition := some text }
  | .paths paths => { r with paths }
  | .when verdict => { r with when := some verdict }

/-- The fields of a rule that are given; without a path, none are. -/
def fields (r : Rule) : List Field :=
  r.condition.toList.map .condition
    ++ (if r.paths.isEmpty then [] else [.paths r.paths])
    ++ r.when.toList.map .when

theorem put_comm (r : Rule) (f g : Field) (h : f.key ≠ g.key) :
    (r.put f).put g = (r.put g).put f := by
  cases f <;> cases g <;> first | rfl | exact absurd rfl h

theorem nodup_map_key_fields (r : Rule) : (r.fields.map Field.key).Nodup := by
  obtain ⟨_ | condition, _ | ⟨path, paths⟩, _ | verdict⟩ := r <;> simp [fields, Field.key]

theorem foldl_put_fields (r : Rule) : r.fields.foldl put {} = r := by
  obtain ⟨_ | condition, _ | ⟨path, paths⟩, _ | verdict⟩ := r <;> rfl

/-- A rule is put together from its fields in any order. -/
theorem foldl_put_of_perm {r : Rule} {fs : List Field} (h : r.fields.Perm fs) :
    fs.foldl put {} = r := by
  rw [← foldl_eq_of_perm put_comm h r.nodup_map_key_fields, foldl_put_fields]

end Rule

/-! ## Directives -/

namespace Directive

/-- A field of a directive, with the value that is given for it. -/
inductive Field where
  | localPath (path : String)
  | remote (url : String)
  | template (name : String)
  | project (path : String)
  | artifact (path : String)
  | job (name : String)
  | file (files : Files)
  | ref (name : String)
  | rules (rules : List Rule)
deriving DecidableEq, Repr

/-- The key of a field. -/
def Field.key : Field → String
  | localPath _ => "local"
  | remote _ => "remote"
  | template _ => "template"
  | project _ => "project"
  | artifact _ => "artifact"
  | job _ => "job"
  | file _ => "file"
  | ref _ => "ref"
  | rules _ => "rules"

/-- The directive with a field set. -/
def put (d : Directive) : Field → Directive
  | .localPath path => { d with localPath := some path }
  | .remote url => { d with remote := some url }
  | .template name => { d with template := some name }
  | .project path => { d with project := some path }
  | .artifact path => { d with artifact := some path }
  | .job name => { d with job := some name }
  | .file files => { d with file := some files }
  | .ref name => { d with ref := some name }
  | .rules rules => { d with rules := some rules }

/-- The fields of a directive that are given. -/
def fields (d : Directive) : List Field :=
  d.localPath.toList.map .localPath
    ++ d.remote.toList.map .remote
    ++ d.template.toList.map .template
    ++ d.project.toList.map .project
    ++ d.artifact.toList.map .artifact
    ++ d.job.toList.map .job
    ++ d.file.toList.map .file
    ++ d.ref.toList.map .ref
    ++ d.rules.toList.map .rules

theorem put_comm (d : Directive) (f g : Field) (h : f.key ≠ g.key) :
    (d.put f).put g = (d.put g).put f := by
  cases f <;> cases g <;> first | rfl | exact absurd rfl h

/-- A field that is not the file choice leaves it alone. -/
theorem file_put {d : Directive} {f : Field} (h : f.key ≠ "file") : (d.put f).file = d.file := by
  cases f <;> first | rfl | exact absurd rfl h

theorem map_key_sublist {β : Type} (field : β → Field) (name : String)
    (h : ∀ b, (field b).key = name) (o : Option β) :
    ((o.toList.map field).map Field.key).Sublist [name] := by
  cases o with
  | none => exact List.nil_sublist _
  | some b =>
    rw [← h b]
    exact .refl _

/-- The fields of a directive stand in the order of the keys, each once at most. -/
theorem map_key_fields_sublist (d : Directive) : (d.fields.map Field.key).Sublist keys := by
  have hkeys : keys = ["local"] ++ ["remote"] ++ ["template"] ++ ["project"] ++ ["artifact"]
      ++ ["job"] ++ ["file"] ++ ["ref"] ++ ["rules"] := rfl
  simp only [fields, List.map_append]
  rw [hkeys]
  refine List.Sublist.append ?_ (map_key_sublist .rules "rules" (fun _ => rfl) _)
  refine List.Sublist.append ?_ (map_key_sublist .ref "ref" (fun _ => rfl) _)
  refine List.Sublist.append ?_ (map_key_sublist .file "file" (fun _ => rfl) _)
  refine List.Sublist.append ?_ (map_key_sublist .job "job" (fun _ => rfl) _)
  refine List.Sublist.append ?_ (map_key_sublist .artifact "artifact" (fun _ => rfl) _)
  refine List.Sublist.append ?_ (map_key_sublist .project "project" (fun _ => rfl) _)
  refine List.Sublist.append ?_ (map_key_sublist .template "template" (fun _ => rfl) _)
  refine List.Sublist.append ?_ (map_key_sublist .remote "remote" (fun _ => rfl) _)
  exact map_key_sublist .localPath "local" (fun _ => rfl) _

theorem nodup_map_key_fields (d : Directive) : (d.fields.map Field.key).Nodup :=
  d.map_key_fields_sublist.nodup (by decide)

/-- Setting a field that may be absent fills it in. -/
theorem foldl_put_toList {β : Type} (field : β → Field) (fill : Option β → Directive)
    (h : ∀ b, (fill none).put (field b) = fill (some b)) (o : Option β) :
    (o.toList.map field).foldl put (fill none) = fill o := by
  cases o with
  | none => rfl
  | some b => exact h b

/-- A directive is put together from its fields. -/
theorem foldl_put_fields (d : Directive) : d.fields.foldl put {} = d := by
  obtain ⟨localPath, remote, template, project, artifact, job, file, ref, rules⟩ := d
  simp only [fields, List.foldl_append]
  rw [foldl_put_toList .localPath (fun localPath => { localPath }) fun _ => rfl,
    foldl_put_toList .remote (fun remote => { localPath, remote }) fun _ => rfl,
    foldl_put_toList .template (fun template => { localPath, remote, template }) fun _ => rfl,
    foldl_put_toList .project (fun project => { localPath, remote, template, project })
      fun _ => rfl,
    foldl_put_toList .artifact
      (fun artifact => { localPath, remote, template, project, artifact }) fun _ => rfl,
    foldl_put_toList .job
      (fun job => { localPath, remote, template, project, artifact, job }) fun _ => rfl,
    foldl_put_toList .file
      (fun file => { localPath, remote, template, project, artifact, job, file }) fun _ => rfl,
    foldl_put_toList .ref
      (fun ref => { localPath, remote, template, project, artifact, job, file, ref }) fun _ => rfl,
    foldl_put_toList .rules
      (fun rules => { localPath, remote, template, project, artifact, job, file, ref, rules })
      fun _ => rfl]

/-- A directive is put together from its fields in any order. -/
theorem foldl_put_of_perm {d : Directive} {fs : List Field} (h : d.fields.Perm fs) :
    fs.foldl put {} = d := by
  rw [← foldl_eq_of_perm put_comm h d.nodup_map_key_fields, foldl_put_fields]

end Directive

end IncludeTree
