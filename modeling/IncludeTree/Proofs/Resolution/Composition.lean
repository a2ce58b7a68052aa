import IncludeTree.Proofs.Resolution.Entries

/-!
# Lists of includes and their parts

A resolution runs every stage over the whole list, and still it treats a list like its parts.
`resolve_append` says that two lists in a row resolve to some sources just when the first resolves
to the sources at the front and the second, from the ledger that the first leaves, to the others.

`Context.StandsFor ctx d es` lists the ways in which a directive stands for other includes: one that
its rules drop stands for nothing, one that names several files of a project for one directive for
each, and a wildcard for the directives of the files that it matches. `resolve_replace_in_place`
says that a directive can be replaced by what it stands for, whatever stands before and behind it:
the outcome is the same, success or failure, and so is the ledger.
-/

namespace IncludeTree

/-- A list that is put together from two succeeds when both do. -/
theorem append_eq_ok {β ε : Type} {x y : Except ε (List β)} {cs : List β} :
    (do return (← x) ++ (← y) : Except ε (List β)) = .ok cs ↔
      ∃ as bs, x = .ok as ∧ y = .ok bs ∧ cs = as ++ bs := by
  rcases x with e | as
  · simp [bind, Except.bind]
  · rcases y with e | bs <;> simp [bind, Except.bind, pure, Except.pure, eq_comm]

namespace Context

open ResolveM

variable {ctx : Context}

/-! ## Two lists in a row -/

theorem mapM_sourceOf_append_eq_ok {ds ds' : List Directive} {sources : List Source} :
    (ds ++ ds').mapM ctx.sourceOf = .ok sources ↔
      ∃ front back, ds.mapM ctx.sourceOf = .ok front ∧ ds'.mapM ctx.sourceOf = .ok back ∧
        sources = front ++ back := by
  rw [List.mapM_append]
  exact append_eq_ok

/-- The stages before the recording succeed on two lists in a row when they do on each. -/
theorem plan_append_eq_ok {xs ys : List Include} {ds : List Directive} :
    ctx.plan (xs ++ ys) = .ok ds ↔
      ∃ dx dy, ctx.plan xs = .ok dx ∧ ctx.plan ys = .ok dy ∧ ds = dx ++ dy := by
  simp only [plan_eq_prospect, prospect_append]
  rcases ctx.prospect xs with e | found
  · simp [bind, Except.bind]
  · rcases ctx.prospect ys with e | rest
    · simp [bind, Except.bind]
    · rcases found with e | ds₁
      · simp [bind, Except.bind, pure, Except.pure]
      · rcases rest with e | ds₂ <;>
          simp [bind, Except.bind, pure, Except.pure, eq_comm]

/-- **Two lists of includes in a row.** They resolve to some sources, and leave some ledger, just
when the first resolves to the sources at the front and the second, in the session that the first
leaves, to those at the back. -/
theorem resolve_append (ctx : Context) (xs ys : List Include) (s : Session)
    (sources : List Source) (l : Ledger) :
    (∃ s', runOn (ctx.resolve (xs ++ ys)) s = (.ok sources, s') ∧ s'.ledger = l) ↔
      ∃ s₁ s₂ front back, runOn (ctx.resolve xs) s = (.ok front, s₁) ∧
        runOn (ctx.resolve ys) s₁ = (.ok back, s₂) ∧ s₂.ledger = l ∧
        sources = front ++ back := by
  rw [exists_runOn_resolve_iff, resolution_eq_ok]
  constructor
  · rintro ⟨ds, hplan, hgrows, hsources⟩
    obtain ⟨dx, dy, hx, hy, rfl⟩ := plan_append_eq_ok.mp hplan
    rw [List.map_append] at hgrows
    obtain ⟨l₁, hgrows₁, hgrows₂⟩ := Ledger.grows_append.mp hgrows
    obtain ⟨front, back, hfront, hback, rfl⟩ := mapM_sourceOf_append_eq_ok.mp hsources
    obtain ⟨s₁, hrun₁, rfl⟩ :=
      exists_runOn_resolve_iff.mpr (resolution_eq_ok.mpr ⟨dx, hx, hgrows₁, hfront⟩)
    obtain ⟨s₂, hrun₂, hledger⟩ :=
      exists_runOn_resolve_iff.mpr (resolution_eq_ok.mpr ⟨dy, hy, hgrows₂, hback⟩)
    exact ⟨s₁, s₂, front, back, hrun₁, hrun₂, hledger, rfl⟩
  · rintro ⟨s₁, s₂, front, back, hrun₁, hrun₂, hledger, rfl⟩
    obtain ⟨dx, hx, hgrows₁, hfront⟩ :=
      resolution_eq_ok.mp (exists_runOn_resolve_iff.mp ⟨s₁, hrun₁, rfl⟩)
    obtain ⟨dy, hy, hgrows₂, hback⟩ :=
      resolution_eq_ok.mp (exists_runOn_resolve_iff.mp ⟨s₂, hrun₂, hledger⟩)
    refine ⟨dx ++ dy, plan_append_eq_ok.mpr ⟨dx, dy, hx, hy, rfl⟩, ?_,
      mapM_sourceOf_append_eq_ok.mpr ⟨front, back, hfront, hback, rfl⟩⟩
    rw [List.map_append]
    exact Ledger.grows_append.mpr ⟨s₁.ledger, hgrows₁, hgrows₂⟩

/-! ## Replacing a part of a list -/

/-- Two lists of includes have the same outcome in every session, success or failure, and leave the
same ledger. -/
def ResolvesAlike (ctx : Context) (is js : List Include) : Prop :=
  ∀ s, (runOn (ctx.resolve is) s).1 = (runOn (ctx.resolve js) s).1 ∧
    (runOn (ctx.resolve is) s).2.ledger = (runOn (ctx.resolve js) s).2.ledger

/-- Lists for which the same is planned resolve alike. -/
theorem resolvesAlike_of_plan_eq {is js : List Include} (h : ctx.plan is = ctx.plan js) :
    ctx.ResolvesAlike is js := by
  intro s
  obtain ⟨hout, hledger⟩ := ctx.follows_resolve is s
  obtain ⟨hout', hledger'⟩ := ctx.follows_resolve js s
  have hresolution : ctx.resolution is s.ledger = ctx.resolution js s.ledger := by
    simp only [resolution, h]
  rw [hout, hledger, hout', hledger', hresolution]
  exact ⟨rfl, rfl⟩

/-- Includes of one prospect can stand in each other's place. -/
theorem plan_congr_middle {es es' : List Include} (h : ctx.prospect es = ctx.prospect es')
    (xs ys : List Include) : ctx.plan (xs ++ es ++ ys) = ctx.plan (xs ++ es' ++ ys) := by
  simp only [plan_eq_prospect, prospect_append, h]

/-- The ways in which a directive stands for other includes. -/
inductive StandsFor (ctx : Context) (d : Directive) : List Include → Prop where
  /-- A directive that its rules drop stands for nothing. -/
  | dropped {rules} :
      d.rules = some rules →
      ctx.evaluate ctx.toSetting rules = .ok false →
      StandsFor ctx d []
  /-- A directive for files of a project stands for itself with each of the files in turn. -/
  | eachFile {project files} :
      d.project = some project →
      d.file = some files →
      files.paths ≠ [] →
      StandsFor ctx d
        (files.paths.map fun path => .directive { d with file := some (.one path) })
  /-- A wildcard that its rules keep stands for the files that it matches, unless one of them would
  be a wildcard itself. -/
  | eachMatch {pattern paths} :
      d.project = none →
      d.localPath = some pattern →
      '*' ∈ pattern.toList →
      (∀ rules ∈ d.rules, ctx.evaluate ctx.toSetting rules = .ok true) →
      ctx.repository.search ctx.scope pattern = .ok paths →
      (∀ path ∈ paths, '*' ∉ path.toList) →
      StandsFor ctx d (paths.map fun path => .directive (.ofLocal path))

variable {d : Directive} {es : List Include}

/-- The files of a project share the rules that guard them: all are kept, or all are dropped, or the
first fails with the error of the whole. -/
theorem collect_branch_eachFile {project : String} {files : Files}
    (hproject : d.project = some project) (hfile : d.file = some files) (hne : files.paths ≠ []) :
    collect ctx.branch (files.paths.map fun path => .directive { d with file := some (.one path) }) =
      ctx.branch (.directive d) := by
  have hverdict : ∀ path : String,
      ctx.verdict { d with file := some (.one path) } = ctx.verdict d := fun _ => rfl
  cases h : ctx.verdict d with
  | error e =>
    rw [branch_of_verdict_error h]
    exact collect_map_of_forall_error hne fun path _ =>
      branch_of_verdict_error ((hverdict path).trans h)
  | ok b =>
    rw [branch_of_verdict h]
    cases b with
    | true =>
      change _ = Except.ok d.fanOut
      rw [Directive.fanOut_of_files hproject hfile hne]
      refine collect_map_of_forall_singleton fun path _ => ?_
      rw [branch_of_verdict ((hverdict path).trans h)]
      exact congrArg Except.ok (Directive.fanOut_of_one rfl)
    | false =>
      rw [collect_map_of_forall_ok fun path _ => branch_of_verdict ((hverdict path).trans h)]
      exact congrArg Except.ok (List.flatMap_eq_nil_iff.mpr fun _ _ => rfl)

/-- The files that a wildcard matches go to the search and are found there, one for one. -/
theorem prospect_eachMatch {paths : List String} (h : ∀ path ∈ paths, '*' ∉ path.toList) :
    ctx.prospect (paths.map fun path => .directive (.ofLocal path)) =
      .ok (.ok (paths.map Directive.ofLocal)) := by
  have hbranch : collect ctx.branch (paths.map fun path => .directive (.ofLocal path)) =
      .ok (paths.map Directive.ofLocal) :=
    collect_map_of_forall_singleton fun _ _ => branch_of_unguarded rfl rfl
  have hsearched : collect ctx.searched (paths.map Directive.ofLocal) =
      .ok (paths.map Directive.ofLocal) :=
    collect_map_of_forall_singleton fun path hpath =>
      searched_of_wildcard?_none (by simpa using h path hpath)
  unfold prospect
  rw [hbranch]
  exact congrArg Except.ok hsearched

/-- A directive has the prospect of what it stands for. -/
theorem StandsFor.prospect_eq (h : ctx.StandsFor d es) :
    ctx.prospect [.directive d] = ctx.prospect es := by
  cases h with
  | dropped hrules hverdict =>
    unfold prospect
    rw [collect_singleton, branch_of_verdict ((verdict_of_rules hrules).trans hverdict)]
    rfl
  | eachFile hproject hfile hne =>
    unfold prospect
    rw [collect_singleton, collect_branch_eachFile hproject hfile hne]
  | eachMatch hproject hlocal hstar hrules hsearch hplain =>
    have hverdict : ctx.verdict d = .ok true := by
      cases h : d.rules with
      | none => exact verdict_of_rules_none h
      | some rules => exact (verdict_of_rules h).trans (hrules rules h)
    have hbranch : ctx.branch (.directive d) = .ok [d] := by
      rw [branch_of_verdict hverdict, if_pos rfl]
      exact congrArg Except.ok (Directive.fanOut_of_project_none hproject)
    -- The files pass a search of their own; the wildcard comes to them in the one search it has.
    rw [prospect_eachMatch hplain]
    unfold prospect
    rw [collect_singleton, hbranch]
    change Except.ok (collect ctx.searched [d]) = _
    rw [collect_singleton,
      searched_of_search (Directive.wildcard?_of_star hlocal hstar) hsearch]

/-- **A directive can be replaced in place by what it stands for.** Whatever includes stand before
and behind it, and whether they resolve or not, the outcome is the same and the ledger as well. -/
theorem resolve_replace_in_place (h : ctx.StandsFor d es) (xs ys : List Include) :
    ctx.ResolvesAlike (xs ++ [.directive d] ++ ys) (xs ++ es ++ ys) :=
  resolvesAlike_of_plan_eq (plan_congr_middle h.prospect_eq xs ys)

/-- A context with two files in one directory. -/
def twoFiles : Context where
  scope := ⟨"group/app", "main"⟩
  repository := (Trees.ofList
    [(⟨"group/app", "main"⟩, "ci/a.yml"), (⟨"group/app", "main"⟩, "ci/b.yml")]).repository

/-- One directive of each kind is replaced between two includes. Behind the wildcard stands one of
its own files, so that list fails either way. -/
theorem resolve_replace_in_place_twoFiles :
    twoFiles.ResolvesAlike
      [.path "a.yml",
        .directive { localPath := some "c.yml", rules := some [{ when := some .never }] },
        .path "b.yml"]
      [.path "a.yml", .path "b.yml"] ∧
    twoFiles.ResolvesAlike
      [.path "a.yml", .directive (.ofProject "group/lib" ["x.yml", "y.yml"]), .path "b.yml"]
      [.path "a.yml",
        .directive { project := some "group/lib", file := some (.one "x.yml") },
        .directive { project := some "group/lib", file := some (.one "y.yml") },
        .path "b.yml"] ∧
    twoFiles.ResolvesAlike
      [.path "a.yml", .directive (.ofLocal "ci/*.yml"), .path "ci/b.yml"]
      [.path "a.yml", .directive (.ofLocal "ci/a.yml"), .directive (.ofLocal "ci/b.yml"),
        .path "ci/b.yml"] := by
  have hnever : twoFiles.StandsFor
      { localPath := some "c.yml", rules := some [{ when := some .never }] } [] :=
    .dropped rfl (by decide +kernel)
  have hfiles : twoFiles.StandsFor (.ofProject "group/lib" ["x.yml", "y.yml"])
      [.directive { project := some "group/lib", file := some (.one "x.yml") },
        .directive { project := some "group/lib", file := some (.one "y.yml") }] :=
    @StandsFor.eachFile _ (.ofProject "group/lib" ["x.yml", "y.yml"]) "group/lib"
      (.many ["x.yml", "y.yml"]) rfl rfl (List.cons_ne_nil _ _)
  have hsearch : twoFiles.repository.search twoFiles.scope "ci/*.yml" =
      .ok ["ci/a.yml", "ci/b.yml"] := by
    decide +kernel
  have hmatches : twoFiles.StandsFor (.ofLocal "ci/*.yml")
      [.directive (.ofLocal "ci/a.yml"), .directive (.ofLocal "ci/b.yml")] :=
    @StandsFor.eachMatch _ (.ofLocal "ci/*.yml") "ci/*.yml" ["ci/a.yml", "ci/b.yml"] rfl rfl
      (by decide) (fun _ h => by cases h) hsearch (by decide +kernel)
  exact ⟨resolve_replace_in_place hnever [.path "a.yml"] [.path "b.yml"],
    resolve_replace_in_place hfiles [.path "a.yml"] [.path "b.yml"],
    resolve_replace_in_place hmatches [.path "a.yml"] [.path "ci/b.yml"]⟩

end Context

end IncludeTree
