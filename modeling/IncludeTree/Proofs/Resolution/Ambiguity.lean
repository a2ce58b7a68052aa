import IncludeTree.Proofs.Resolution.Composition
import IncludeTree.Proofs.Resolution.Interpolation

/-!
# Directives that fit two kinds

A directive that gives what two kinds of source read has no single source, and a list with such a
directive does not resolve (`exists_resolution_error`). But it is only classified at the end: a
directive whose local path is a wildcard has been replaced by then, by directives that give nothing
but a path. So it is resolved as if it gave nothing but its wildcard (`plan_of_star`), whatever else
it gives. `resolve_of_two_kinds` puts both together.
-/

namespace IncludeTree.Context

open ResolveM

variable {ctx : Context} {includes : List Include} {d part : Directive} {ds : List Directive}

/-! ## Lists with an ambiguous directive -/

theorem exists_mapM_sourceOf_error (hmem : part ∈ ds) (hkinds : part.targets.length ≠ 1) :
    ∃ e ∈ ds, ds.mapM ctx.sourceOf = .error (.ambiguous e) := by
  cases hsources : ds.mapM ctx.sourceOf with
  | ok sources =>
    exact absurd (exists_sourceOf.mp (exists_ok_of_mapM_eq_ok hsources part hmem)) hkinds
  | error err =>
    obtain ⟨before, e, after, rfl, -, herr⟩ := mapM_eq_error.mp hsources
    obtain ⟨-, rfl⟩ := sourceOf_eq_error.mp herr
    exact ⟨e, List.mem_append_right before List.mem_cons_self, rfl⟩

/-- A list of includes that comes to some directive without a single kind fails, in whatever
session; with an ambiguous directive, when the ledger admits all that the list comes to. -/
theorem exists_resolution_error (hplan : ctx.plan includes = .ok ds) (hmem : part ∈ ds)
    (hkinds : part.targets.length ≠ 1) (l : Ledger) :
    (∃ err, (ctx.resolution includes l).1 = .error err) ∧
      (l.Admits (ds.map ctx.entry) →
        ∃ e ∈ ds, (ctx.resolution includes l).1 = .error (.ambiguous e)) := by
  obtain ⟨e, he, hsources⟩ := @exists_mapM_sourceOf_error ctx _ _ hmem hkinds
  have hadmits : l.Admits (ds.map ctx.entry) →
      (ctx.resolution includes l).1 = .error (.ambiguous e) := fun hadm => by
    rw [resolution_of_admits hplan hadm, hsources]
  refine ⟨?_, fun hadm => ⟨e, he, hadmits hadm⟩⟩
  rcases hrec : l.recordAll (ds.map ctx.entry) with ⟨err | ⟨⟩, l'⟩
  · exact ⟨err, congrArg Prod.fst (resolution_of_recordAll_error hplan hrec)⟩
  · exact ⟨_, hadmits (Ledger.recordAll_eq_ok.mp hrec).1⟩

/-! ## One directive -/

/-- A lone directive that no rules guard and that is a wildcard comes to what the bare wildcard
does, once for each file that it names. -/
theorem plan_of_star {pattern : String} (hrules : d.rules = none)
    (hlocal : d.localPath = some pattern) (hstar : '*' ∈ pattern.toList) :
    ctx.plan [.directive d] =
      ctx.plan (d.fanOut.map fun _ => .directive (.ofLocal pattern)) := by
  have hbranch : ctx.branch (.directive d) = .ok d.fanOut := branch_of_rules_none hrules
  have hbare : collect ctx.branch (d.fanOut.map fun _ => .directive (.ofLocal pattern)) =
      .ok (d.fanOut.map fun _ => .ofLocal pattern) :=
    collect_map_of_forall_singleton fun _ _ => branch_of_unguarded rfl rfl
  have hsearched : ∀ part ∈ d.fanOut, ctx.searched (.ofLocal pattern) = ctx.searched part := by
    intro part hpart
    obtain ⟨file, rfl⟩ := Directive.eq_of_mem_fanOut hpart
    exact searched_congr (Directive.wildcard?_of_star rfl hstar)
      (Directive.wildcard?_of_star hlocal hstar)
  rw [plan_eq_prospect, plan_eq_prospect, prospect, prospect, collect_singleton, hbranch, hbare]
  change (collect ctx.searched d.fanOut >>= _) = (collect ctx.searched (d.fanOut.map _) >>= _)
  rw [collect_map_congr hsearched]

/-- **A directive of two kinds is refused, unless it is a wildcard.** When a directive without rules
fits two kinds once the variables are put in, and its local path holds no star as it is written, no
session lets it resolve; where the ledger admits its parts it is reported as ambiguous. When its
local path holds a star, everything else that it gives is dropped: it resolves like the bare
wildcard, once for each file that it names of its project. -/
theorem resolve_of_two_kinds {kind kind' : SourceKind} (hrules : d.rules = none)
    (hfits : (d.interpolate ctx.vars).Fits kind) (hfits' : (d.interpolate ctx.vars).Fits kind')
    (hne : kind ≠ kind') :
    ((∀ path ∈ d.localPath, '*' ∉ path.toList) → ∀ s,
      (∃ err, (runOn (ctx.resolve [.directive d]) s).1 = .error err) ∧
        (s.ledger.Admits ((d.interpolate ctx.vars).fanOut.map ctx.entry) →
          ∃ part ∈ (d.interpolate ctx.vars).fanOut,
            (runOn (ctx.resolve [.directive d]) s).1 = .error (.ambiguous part))) ∧
      ∀ pattern, d.localPath = some pattern → '*' ∈ pattern.toList →
        ctx.ResolvesAlike [.directive d]
          (d.fanOut.map fun _ => .directive (.ofLocal pattern)) := by
  constructor
  · intro hstar s
    obtain ⟨part, hpart, hkinds⟩ := Directive.exists_mem_fanOut_of_two_kinds hfits hfits' hne
    rw [(ctx.follows_resolve [.directive d] s).1]
    exact exists_resolution_error (plan_of_no_star hrules hstar) hpart hkinds s.ledger
  · intro pattern hlocal hstar
    exact resolvesAlike_of_plan_eq (plan_of_star hrules hlocal hstar)

/-- A template together with two files of a project, the first of which has no path. -/
def templateAndFiles : Directive where
  template := some "t.yml"
  project := some "group/lib"
  file := some (.many ["", "x.yml"])

/-- A wildcard together with a URL. -/
def wildcardAndUrl : Directive where
  localPath := some "ci/*.yml"
  remote := some "https://[::1]/a.yml"

theorem fits_wildcardAndUrl : (wildcardAndUrl.interpolate twoFiles.vars).Fits .localFile ∧
    (wildcardAndUrl.interpolate twoFiles.vars).Fits .remote := by
  have hlocal : (wildcardAndUrl.interpolate twoFiles.vars).localPath = some "ci/*.yml" := by
    decide +kernel
  have hremote : (wildcardAndUrl.interpolate twoFiles.vars).remote =
      some "https://[::1]/a.yml" := by
    decide +kernel
  exact ⟨.localFile hlocal (by decide +kernel), .remote hremote (by decide +kernel)⟩

/-- A wildcard together with a URL fits two kinds and is included all the same. -/
theorem wildcard_not_refused :
    wildcardAndUrl.rules = none ∧
      (wildcardAndUrl.interpolate twoFiles.vars).Fits .localFile ∧
      (wildcardAndUrl.interpolate twoFiles.vars).Fits .remote ∧
      (runOn (twoFiles.resolve [.directive wildcardAndUrl]) {}).1.toOption.map
        (List.map Source.target) = some [.localFile "ci/a.yml", .localFile "ci/b.yml"] :=
  ⟨rfl, fits_wildcardAndUrl.1, fits_wildcardAndUrl.2, by decide +kernel⟩

/-- The part for the first file is nothing but a template, and that for the second fits two kinds;
the URL beside the wildcard is dropped. -/
theorem resolve_of_two_kinds_twoFiles :
    (∃ part, (runOn (twoFiles.resolve [.directive templateAndFiles]) {}).1 =
        .error (.ambiguous part)) ∧
      twoFiles.ResolvesAlike [.directive wildcardAndUrl] [.directive (.ofLocal "ci/*.yml")] := by
  have hkept : templateAndFiles.interpolate twoFiles.vars = templateAndFiles := by decide +kernel
  constructor
  · have htemplate : (templateAndFiles.interpolate twoFiles.vars).Fits .template := by
      rw [hkept]
      exact .template rfl (by decide +kernel)
    have hproject : (templateAndFiles.interpolate twoFiles.vars).Fits .projectFile := by
      rw [hkept]
      exact .projectFile rfl (by decide +kernel) rfl
        (List.mem_cons_of_mem "" List.mem_cons_self) (by decide +kernel)
    obtain ⟨-, hambiguous⟩ := (resolve_of_two_kinds rfl htemplate hproject (by decide)).1
      (fun _ h => by cases h) {}
    rw [hkept] at hambiguous
    obtain ⟨part, -, hout⟩ :=
      hambiguous ((Ledger.admits_iff_nodup rfl (by decide)).mpr (by decide +kernel))
    exact ⟨part, hout⟩
  · exact (resolve_of_two_kinds rfl fits_wildcardAndUrl.1 fits_wildcardAndUrl.2 (by decide)).2
      "ci/*.yml" rfl (by decide)

end IncludeTree.Context
