import IncludeTree.Proofs.Resolution.Composition
import IncludeTree.Proofs.Resolution.Interpolation

/-!
# A local path as a bare text and as a directive

A bare text has the variables put in before it is looked at, and a directive only after its wildcard
has been searched for. `Context.pathsOf` is what the local path of a directive comes to; a bare text
that is no URL comes to what the text with the variables put in does. So the two ways to write a
local path agree when the path comes to the same before and after the variables are put in, and it
does unless there is a star in it by then (`pathsOf_eq_of_no_star`). With a star the directive comes
to what the search for the pattern as it is written finds, and the bare text to what the search for
the pattern with the variables put in finds.
-/

namespace IncludeTree.Context

open ResolveM

variable {ctx : Context} {path text once : String} {sources : List Source} {l : Ledger}

/-! ## What a local path comes to -/

/-- The paths that a local path comes to: a wildcard to those of the files that it matches, and any
other path to itself. The variables are put in at the end. -/
def pathsOf (ctx : Context) (path : String) : Except SourceError (List String) :=
  if '*' ∈ path.toList then (ctx.repository.search ctx.scope path).map (List.map ctx.vars.expand)
  else .ok [ctx.vars.expand path]

/-- What is recorded of a lone directive for a local path. -/
theorem plan_ofLocal (ctx : Context) (path : String) :
    ctx.plan [.directive (.ofLocal path)] =
      ((ctx.pathsOf path).map (List.map Directive.ofLocal)).mapError .collaborator := by
  unfold pathsOf
  split
  · next hstar =>
    cases hsearch : ctx.repository.search ctx.scope path with
    | ok paths => exact plan_wildcard rfl hstar rfl rfl hsearch
    | error e => exact plan_wildcard_error rfl hstar rfl rfl hsearch
  · next hstar =>
    rw [plan_of_no_star rfl (by simpa [Directive.ofLocal] using hstar)]
    rfl

/-- A lone directive for a local path that resolves does so to the files at what the path comes
to. -/
theorem exists_pathsOf_of_ok (h : (ctx.resolution [.directive (.ofLocal path)] l).1 = .ok sources) :
    ∃ paths, ctx.pathsOf path = .ok paths ∧ sources = paths.map (.ofLocal ctx.scope) := by
  obtain ⟨ds, hplan, -, hsources⟩ := resolution_eq_ok.mp (Prod.ext h rfl)
  rw [plan_ofLocal] at hplan
  cases hpaths : ctx.pathsOf path with
  | error e => rw [hpaths] at hplan; cases hplan
  | ok paths =>
    rw [hpaths] at hplan
    obtain rfl := Except.ok.inj hplan
    exact ⟨paths, rfl, eq_map_ofLocal_of_mapM hsources⟩

/-! ## Two ways to write it -/

/-- A path comes to the same before and after the variables are put in when there is no star in it
by then, since none can have been there before. -/
theorem pathsOf_eq_of_no_star
    (hfixed : ctx.vars.expand (ctx.vars.expand text) = ctx.vars.expand text)
    (hstar : '*' ∉ (ctx.vars.expand text).toList) :
    ctx.pathsOf text = ctx.pathsOf (ctx.vars.expand text) := by
  have hwritten : '*' ∉ text.toList := fun h => hstar (ctx.vars.mem_expand (by decide) h)
  unfold pathsOf
  rw [if_neg hstar, if_neg hwritten, hfixed]

theorem source_ofLocal_injective : Function.Injective (Source.ofLocal ctx.scope) := by
  intro path path' h
  simpa [Source.ofLocal] using congrArg Source.target h

/-- **A local path as a bare text and as a directive.** Let a text be no URL with the variables put
in, and let there be no placeholder left by then. Whatever it is resolved in, it makes no difference
whether it stands for itself or is the local path of a directive, if it then holds no star, or is as
it was written, or if the path comes to the same before and after. And if the bare text resolves to
some sources in a session, the directive resolves to them just when the path comes to the same. -/
theorem resolve_path_alike_ofLocal (honce : ctx.vars.expand text = once)
    (hurl : isUrl once = false) (hfixed : ctx.vars.expand once = once) :
    ('*' ∉ once.toList ∨ text = once →
      ctx.ResolvesAlike [.path text] [.directive (.ofLocal text)]) ∧
    (ctx.pathsOf text = ctx.pathsOf once →
      ctx.ResolvesAlike [.path text] [.directive (.ofLocal text)]) ∧
    ∀ s sources, (runOn (ctx.resolve [.path text]) s).1 = .ok sources →
      ((runOn (ctx.resolve [.directive (.ofLocal text)]) s).1 = .ok sources ↔
        ctx.pathsOf text = ctx.pathsOf once) := by
  subst honce
  have hplan : ctx.plan [.path text] = ctx.plan [.directive (.ofLocal (ctx.vars.expand text))] := by
    rw [plan_path, Directive.ofText_of_not_isUrl hurl]
  have halike : ctx.pathsOf text = ctx.pathsOf (ctx.vars.expand text) →
      ctx.ResolvesAlike [.path text] [.directive (.ofLocal text)] := fun hpaths =>
    resolvesAlike_of_plan_eq (by rw [hplan, plan_ofLocal, plan_ofLocal, hpaths])
  refine ⟨?_, halike, fun s sources htext => ⟨fun hdirective => ?_, fun hpaths => ?_⟩⟩
  · rintro (hstar | heq)
    · exact halike (pathsOf_eq_of_no_star hfixed hstar)
    · exact halike (congrArg ctx.pathsOf heq)
  · have hexpanded := (resolvesAlike_of_plan_eq hplan s).1
    rw [htext, (ctx.follows_resolve _ s).1] at hexpanded
    rw [(ctx.follows_resolve _ s).1] at hdirective
    obtain ⟨paths, hpaths, hsources⟩ := exists_pathsOf_of_ok hexpanded.symm
    obtain ⟨paths', hpaths', hsources'⟩ := exists_pathsOf_of_ok hdirective
    have hsame : paths' = paths :=
      List.map_injective_iff.mpr source_ofLocal_injective (hsources'.symm.trans hsources)
    rw [hpaths, hpaths', hsame]
  · exact ((halike hpaths s).1).symm.trans htext

/-- A context with a file in the directory that a variable names. -/
def oneStage : Context where
  scope := ⟨"group/app", "main"⟩
  vars := .ofList [("STAGE", "prod"), ("ALL", "prod/*")]
  repository := (Trees.ofList [(⟨"group/app", "main"⟩, "ci/prod/a.yml")]).repository

/-- A wildcard with a placeholder matches the file as a bare text and nothing as a directive. -/
theorem forms_not_alike :
    oneStage.vars.expand "ci/$STAGE/*.yml" = "ci/prod/*.yml" ∧ isUrl "ci/prod/*.yml" = false ∧
      oneStage.vars.expand "ci/prod/*.yml" = "ci/prod/*.yml" ∧
      (runOn (oneStage.resolve [.path "ci/$STAGE/*.yml"]) {}).1.toOption.map
        (List.map Source.target) = some [.localFile "ci/prod/a.yml"] ∧
      (runOn (oneStage.resolve [.directive (.ofLocal "ci/$STAGE/*.yml")]) {}).1.toOption.map
        (List.map Source.target) = some [] := by
  decide +kernel

/-- A placeholder without a star, one beside a star where nothing matches in either form, and a star
that comes from a value, with which the bare text matches a file and the directive does not. -/
theorem resolve_path_alike_ofLocal_oneStage :
    oneStage.ResolvesAlike [.path "ci/$STAGE/a.yml"] [.directive (.ofLocal "ci/$STAGE/a.yml")] ∧
    oneStage.ResolvesAlike [.path "$STAGE/*.yml"] [.directive (.ofLocal "$STAGE/*.yml")] ∧
    (runOn (oneStage.resolve [.path "ci/$ALL"]) {}).1 =
      .ok [.ofLocal oneStage.scope "ci/prod/a.yml"] ∧
    (runOn (oneStage.resolve [.directive (.ofLocal "ci/$ALL")]) {}).1 ≠
      .ok [.ofLocal oneStage.scope "ci/prod/a.yml"] := by
  have hplain : oneStage.vars.expand "ci/$STAGE/a.yml" = "ci/prod/a.yml" := by decide +kernel
  have hstar : oneStage.vars.expand "$STAGE/*.yml" = "prod/*.yml" := by decide +kernel
  have hvalue : oneStage.vars.expand "ci/$ALL" = "ci/prod/*" := by decide +kernel
  refine ⟨?_, ?_, ?_⟩
  · exact (resolve_path_alike_ofLocal hplain (by decide +kernel) (by decide +kernel)).1
      (.inl (by decide))
  · exact (resolve_path_alike_ofLocal hstar (by decide +kernel) (by decide +kernel)).2.1
      (by decide +kernel)
  · have hout : (runOn (oneStage.resolve [.path "ci/$ALL"]) {}).1.toOption =
        some [.ofLocal oneStage.scope "ci/prod/a.yml"] := by
      decide +kernel
    have hrun := congrArg Prod.fst (runOn_resolve_of_toOption hout)
    obtain ⟨-, -, hiff⟩ :=
      resolve_path_alike_ofLocal hvalue (by decide +kernel) (by decide +kernel)
    refine ⟨hrun, fun hdirective => ?_⟩
    have hpaths := (hiff {} _ hrun).mp hdirective
    exact absurd hpaths (by decide +kernel)

end IncludeTree.Context
