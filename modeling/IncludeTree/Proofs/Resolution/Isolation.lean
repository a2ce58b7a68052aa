import IncludeTree.Proofs.Repository.Content
import IncludeTree.Proofs.Resolution.Stages
import IncludeTree.Proofs.Source.Kinds

/-!
# What a resolution asks of the repository

A resolution asks the repository in two places, for the paths of rules and for wildcards, and each
time in the scope of its context, whatever project or revision an include names itself.
`Context.lookups` lists the patterns that it may ask for. Two repositories that answer these alike
cannot be told apart by it: it goes through the same session step by step
(`runOn_resolve_congr`). Hence files of other scopes have no influence (`resolve_reads_own_scope`).
-/

namespace IncludeTree

/-! ## Computations -/

/-- Traversals that do the same with every entry are the same. -/
theorem mapM_congr_of_forall {m : Type → Type} [Monad m] [LawfulMonad m] {α β : Type}
    {f g : α → m β} {as : List α} (h : ∀ a ∈ as, f a = g a) : as.mapM f = as.mapM g := by
  induction as with
  | nil => rfl
  | cons a as ih =>
    obtain ⟨ha, has⟩ := List.forall_mem_cons.mp h
    rw [List.mapM_cons, List.mapM_cons, ha, ih has]

namespace ResolveM

variable {α β : Type}

/-- Computations go on alike if they do so with what the first one may return. -/
theorem runOn_bind_congr {x : ResolveM α} {f g : α → ResolveM β} {s : Session}
    (h : ∀ a s', runOn x s = (.ok a, s') → runOn (f a) s' = runOn (g a) s') :
    runOn (x >>= f) s = runOn (x >>= g) s := by
  rw [runOn_bind, runOn_bind]
  rcases hx : runOn x s with ⟨e | a, s'⟩
  · rfl
  · exact h a s' hx

/-- A computation that settles returns what it settles for. -/
theorem Settles.eq_of_runOn {x : ResolveM α} {r : Except ResolveError α} (hx : Settles x r)
    {s s' : Session} {a : α} (h : runOn x s = (.ok a, s')) : r = .ok a := by
  have hout := (hx s).1
  rw [h] at hout
  exact hout.symm

end ResolveM

/-! ## Rules -/

/-- The patterns that rules are looked up with. -/
def Rule.lookups (vars : Variables) (rules : List Rule) : List String :=
  rules.flatMap fun r => r.paths.map vars.expand

namespace Rule

variable {setting : Setting} {repository : Repository}

/-- Whether one of several patterns matches a file depends on the answers to these patterns. -/
theorem anyExists_congr {patterns : List String}
    (h : ∀ pattern ∈ patterns.map setting.vars.expand,
      repository.search setting.scope pattern = setting.repository.search setting.scope pattern) :
    anyExists { setting with repository } patterns = anyExists setting patterns := by
  induction patterns with
  | nil => rfl
  | cons pattern rest ih =>
    obtain ⟨hpattern, hrest⟩ := List.forall_mem_cons.mp h
    simp only [anyExists, hpattern, ih hrest]

theorem holds_congr {r : Rule}
    (h : ∀ pattern ∈ r.paths.map setting.vars.expand,
      repository.search setting.scope pattern = setting.repository.search setting.scope pattern) :
    r.holds { setting with repository } = r.holds setting := by
  unfold holds
  rw [anyExists_congr h]
  rfl

/-- What rules decide depends on the answers to their patterns. -/
theorem evaluate_congr {rules : List Rule}
    (h : ∀ pattern ∈ lookups setting.vars rules,
      repository.search setting.scope pattern = setting.repository.search setting.scope pattern) :
    evaluate { setting with repository } rules = evaluate setting rules := by
  induction rules with
  | nil => rfl
  | cons r rest ih =>
    obtain ⟨hr, hrest⟩ := List.forall_mem_append.mp h
    simp only [evaluate, holds_congr hr, ih hrest]

end Rule

/-! ## Directives -/

/-- The patterns that a directive may be looked up with: those of its rules and its wildcard. -/
def Directive.lookups (vars : Variables) (d : Directive) : List String :=
  Rule.lookups vars (d.rules.getD []) ++ d.wildcard?.toList

namespace Context

open ResolveM

/-- The context with another repository. -/
def withRepository (ctx : Context) (repository : Repository) : Context := { ctx with repository }

variable {ctx : Context} {repository : Repository} {d : Directive} {includes : List Include}

/-- A directive is kept or dropped alike by repositories that answer its rules alike. -/
theorem keep_congr (hevaluate : ctx.evaluate = Rule.evaluate)
    (h : ∀ pattern ∈ d.lookups ctx.vars,
      repository.search ctx.scope pattern = ctx.repository.search ctx.scope pattern) :
    (ctx.withRepository repository).keep d = ctx.keep d := by
  have hrules := (List.forall_mem_append.mp h).1
  have hsame : (ctx.withRepository repository).evaluate (ctx.withRepository repository).toSetting
      (d.rules.getD []) = ctx.evaluate ctx.toSetting (d.rules.getD []) := by
    change ctx.evaluate { ctx.toSetting with repository } _ = _
    rw [hevaluate]
    exact Rule.evaluate_congr hrules
  unfold keep
  cases hd : d.rules with
  | none => rfl
  | some rules =>
    rw [hd] at hsame
    simp only [Option.getD_some] at hsame
    simp only [hsame]
    rfl

/-- A directive stands for the same files in repositories that answer its wildcard alike. -/
theorem expandWildcard_congr
    (h : ∀ pattern ∈ d.lookups ctx.vars,
      repository.search ctx.scope pattern = ctx.repository.search ctx.scope pattern) :
    (ctx.withRepository repository).expandWildcard d = ctx.expandWildcard d := by
  have hwildcard := (List.forall_mem_append.mp h).2
  unfold expandWildcard
  cases hd : d.wildcard? with
  | none => rfl
  | some pattern =>
    have hsame : (ctx.withRepository repository).repository.search
        (ctx.withRepository repository).scope pattern = ctx.repository.search ctx.scope pattern :=
      hwildcard pattern (by rw [hd]; exact List.mem_singleton.mpr rfl)
    dsimp only
    rw [hsame]
    rfl

/-! ## Lists of includes -/

/-- The patterns that includes may be looked up with. -/
def lookups (ctx : Context) (includes : List Include) : List String :=
  (ctx.recordForms includes).flatMap (Directive.lookups ctx.vars)

theorem eq_of_kept {kept : Directive} (h : ctx.kept d = .ok (some kept)) : kept = d := by
  unfold Context.kept at h
  split at h
  · exact (Option.some.inj (Except.ok.inj h)).symm
  · cases h
  · cases h

/-- What is searched for is one of the includes, or the part of it for one of its files. -/
theorem lookups_subset_of_kept {kept : List (Option Directive)}
    (hkept : (ctx.recordForms includes).mapM ctx.kept = .ok kept)
    (hd : d ∈ (kept.filterMap id).flatMap Directive.fanOut) :
    d.lookups ctx.vars ⊆ ctx.lookups includes := by
  obtain ⟨whole, hwhole, hpart⟩ := List.mem_flatMap.mp hd
  obtain ⟨o, ho, rfl⟩ := List.mem_filterMap.mp hwhole
  have hmem : Except.ok (some whole) ∈ (ctx.recordForms includes).map ctx.kept := by
    rw [mapM_eq_ok.mp hkept]
    exact List.mem_map_of_mem ho
  obtain ⟨form, hform, heq⟩ := List.mem_map.mp hmem
  obtain rfl := eq_of_kept heq
  -- The parts of a directive differ from it in the file only, which is not looked up.
  obtain ⟨file, rfl⟩ := Directive.eq_of_mem_fanOut hpart
  exact fun pattern hpattern => List.mem_flatMap.mpr ⟨whole, hform, hpattern⟩

variable (hevaluate : ctx.evaluate = Rule.evaluate)
  (h : ∀ pattern ∈ ctx.lookups includes,
    repository.search ctx.scope pattern = ctx.repository.search ctx.scope pattern)

include hevaluate h

/-- The stages before the recording go through a session alike. -/
theorem runOn_directives_congr (s : Session) :
    runOn ((ctx.withRepository repository).directives includes) s =
      runOn (ctx.directives includes) s := by
  have hkeep : ∀ d ∈ ctx.recordForms includes,
      (ctx.withRepository repository).keep d = ctx.keep d := fun d hd =>
    keep_congr hevaluate fun pattern hpattern =>
      h pattern (List.mem_flatMap.mpr ⟨d, hd, hpattern⟩)
  unfold directives
  change runOn (includes.mapM ctx.normalize >>= _) s = _
  refine runOn_bind_congr fun normal s₁ hnormal => ?_
  have hforms : normal = ctx.recordForms includes := by
    have hsettles := (Settles.mapM ctx.settles_normalize includes).eq_of_runOn hnormal
    rw [mapM_of_forall_ok fun _ _ => rfl] at hsettles
    exact (Except.ok.inj hsettles).symm
  subst hforms
  rw [mapM_congr_of_forall hkeep]
  refine runOn_bind_congr fun kept s₂ hkept => ?_
  have hkept' := (Settles.mapM ctx.settles_keep _).eq_of_runOn hkept
  have hexpand : ∀ d ∈ (kept.filterMap id).flatMap Directive.fanOut,
      (ctx.withRepository repository).expandWildcard d = ctx.expandWildcard d := fun d hd =>
    expandWildcard_congr fun pattern hpattern =>
      h pattern (lookups_subset_of_kept hkept' hd hpattern)
  dsimp only
  rw [mapM_congr_of_forall hexpand]
  rfl

/-- **Answers are all that a resolution has of a repository.** With repositories that answer its
lookups alike it goes through a session alike: it returns the same and leaves the same session. -/
theorem runOn_resolve_congr (s : Session) :
    runOn ((ctx.withRepository repository).resolve includes) s =
      runOn (ctx.resolve includes) s := by
  unfold resolve
  split
  · rfl
  · change runOn (ctx.timed .process (note (.resolving ctx.scope includes.length) >>= fun _ =>
      (ctx.withRepository repository).directives includes >>= fun ds =>
        ds.forM ctx.record >>= fun _ => ds.mapM ctx.select)) s = _
    rw [runOn_timed, runOn_timed]
    refine runOn_bind_congr fun _ s₁ _ => ?_
    rw [runOn_bind, runOn_bind, runOn_directives_congr hevaluate h]

omit hevaluate h

/-- **A resolution reads its own scope only.** Let two repositories be filled with files, and let
them have the same in the scope of a context, whatever they have in other projects and at other
revisions. They answer every search of the context alike and decide its rules alike, and every list
of includes goes through every session alike: it resolves to the same or fails with the same error,
and leaves the same ledger, whatever projects and revisions the includes name. -/
theorem resolve_reads_own_scope (hevaluate : ctx.evaluate = Rule.evaluate)
    {files files' : List (Scope × String)}
    (hown : ∀ path, (ctx.scope, path) ∈ files ↔ (ctx.scope, path) ∈ files') :
    (∀ pattern, (Trees.ofList files).repository.search ctx.scope pattern =
      (Trees.ofList files').repository.search ctx.scope pattern) ∧
    (∀ rules, Rule.evaluate { ctx.toSetting with repository := (Trees.ofList files).repository } rules =
      Rule.evaluate { ctx.toSetting with repository := (Trees.ofList files').repository } rules) ∧
    ∀ includes s,
      runOn ((ctx.withRepository (Trees.ofList files).repository).resolve includes) s =
        runOn ((ctx.withRepository (Trees.ofList files').repository).resolve includes) s := by
  have hsearch : ∀ pattern, (Trees.ofList files).repository.search ctx.scope pattern =
      (Trees.ofList files').repository.search ctx.scope pattern := Trees.search_ofList_congr hown
  refine ⟨hsearch, fun rules => ?_, fun includes s => ?_⟩
  · exact @Rule.evaluate_congr
      { ctx.toSetting with repository := (Trees.ofList files').repository }
      (Trees.ofList files).repository rules fun pattern _ => hsearch pattern
  · exact @runOn_resolve_congr (ctx.withRepository (Trees.ofList files').repository)
      (Trees.ofList files).repository includes hevaluate (fun pattern _ => hsearch pattern) s

/-- A wildcard that names another project at another revision, behind a rule that asks for a file of
just that project and then for one of its own. Files there and at an old revision of the own project
change nothing. -/
theorem resolve_reads_own_scope_otherProjects :
    let app : Scope := ⟨"group/app", "main"⟩
    let ctx : Context := { scope := app }
    let own := [(app, "ci/a.yml")]
    let others := [(⟨"group/lib", "v2"⟩, "ci/b.yml"), (app, "ci/a.yml"),
      (⟨"group/app", "old"⟩, "ci/c.yml")]
    let wildcard : Directive :=
      { localPath := some "ci/*.yml", project := some "group/lib", file := some (.one "x.yml"),
        ref := some "v2",
        rules := some [{ paths := ["ci/b.yml"], when := some .never }, { paths := ["ci/a.yml"] }] }
    runOn ((ctx.withRepository (Trees.ofList others).repository).resolve [.directive wildcard]) {} =
      runOn ((ctx.withRepository (Trees.ofList own).repository).resolve [.directive wildcard]) {} ∧
    (runOn ((ctx.withRepository (Trees.ofList others).repository).resolve
      [.directive wildcard]) {}).1.toOption.map (List.map Source.target) =
        some [.localFile "ci/a.yml"] := by
  intro app ctx own others wildcard
  have hown : ∀ path, (ctx.scope, path) ∈ others ↔ (ctx.scope, path) ∈ own := fun path => by
    simp [ctx, app, own, others]
  obtain ⟨-, -, hresolve⟩ := resolve_reads_own_scope rfl hown
  exact ⟨hresolve [.directive wildcard] {}, by decide +kernel⟩

end Context

end IncludeTree
