import IncludeTree.Proofs.Resolution.Stages

/-!
# Resolution entry by entry

Every stage runs over the whole list before the next one starts, so the failure of a rule at the end
of a list wins over the failure of a search at its start. `Context.prospect` keeps the two apart:
its outer layer fails with a rule, its inner one with a search. Seen like this the stages before the
recording act on every entry by itself: the prospect of two lists in a row is the prospect of the
one and then that of the other, layer by layer (`prospect_append`), and `plan_eq_prospect` reads the
plan of a list off its prospect.

`Context.branch` is what a single entry comes to before the search, and `Context.searched` what the
search makes of one directive. `resolution_eq_ok` says when a resolution succeeds.
-/

namespace IncludeTree

/-! ## Traversals that collect lists -/

section collect

variable {α β ε : Type} {f : α → Except ε (List β)}

/-- The lists that the entries of a list come to, one after the other. -/
def collect (f : α → Except ε (List β)) (as : List α) : Except ε (List β) :=
  return (← as.mapM f).flatten

@[simp] theorem collect_singleton (f : α → Except ε (List β)) (a : α) : collect f [a] = f a := by
  unfold collect
  rw [List.mapM_cons, List.mapM_nil]
  cases f a with
  | error e => rfl
  | ok bs => exact congrArg Except.ok (List.append_nil bs)

theorem collect_append (f : α → Except ε (List β)) (as bs : List α) :
    collect f (as ++ bs) = do return (← collect f as) ++ (← collect f bs) := by
  unfold collect
  rw [List.mapM_append]
  cases as.mapM f with
  | error e => rfl
  | ok xs =>
    cases bs.mapM f with
    | error e => rfl
    | ok ys => exact congrArg Except.ok List.flatten_append

/-- Entries that all succeed are collected. -/
theorem collect_map_of_forall_ok {γ : Type} {g : γ → α} {h : γ → List β} {cs : List γ}
    (hf : ∀ c ∈ cs, f (g c) = .ok (h c)) : collect f (cs.map g) = .ok (cs.flatMap h) := by
  have hmap : (cs.map g).map f = (cs.map h).map .ok := by
    rw [List.map_map, List.map_map]
    exact List.map_congr_left hf
  unfold collect
  rw [mapM_eq_ok.mpr hmap, List.flatMap_def]
  rfl

/-- Entries that each come to a single thing are collected one for one. -/
theorem collect_map_of_forall_singleton {γ : Type} {g : γ → α} {h : γ → β} {cs : List γ}
    (hf : ∀ c ∈ cs, f (g c) = .ok [h c]) : collect f (cs.map g) = .ok (cs.map h) := by
  rw [collect_map_of_forall_ok hf, List.map_eq_flatMap]

/-- Entries can be replaced by others that come to the same. -/
theorem collect_map_congr {g : α → α} {as : List α} (h : ∀ a ∈ as, f (g a) = f a) :
    collect f (as.map g) = collect f as := by
  induction as with
  | nil => rfl
  | cons a as ih =>
    obtain ⟨ha, has⟩ := List.forall_mem_cons.mp h
    change collect f ([g a] ++ as.map g) = collect f ([a] ++ as)
    rw [collect_append, collect_append, collect_singleton, collect_singleton, ha, ih has]

/-- Entries that all fail alike fail like the first. -/
theorem collect_map_of_forall_error {γ : Type} {g : γ → α} {cs : List γ} {e : ε} (hne : cs ≠ [])
    (hf : ∀ c ∈ cs, f (g c) = .error e) : collect f (cs.map g) = .error e := by
  cases cs with
  | nil => contradiction
  | cons c cs =>
    unfold collect
    rw [List.map_cons, List.mapM_cons, hf c List.mem_cons_self]
    rfl

end collect

namespace Context

open ResolveM

variable (ctx : Context)

/-! ## What one entry comes to -/

/-- The directives that an entry comes to before the search: none if its rules drop it, and else one
for each file that it names. -/
def branch (i : Include) : Except ResolveError (List Directive) := do
  return (← ctx.kept (ctx.recordForm i)).toList.flatMap Directive.fanOut

/-- What a list of includes comes to before the variables are put in. The outer layer fails with a
rule, the inner one with a search. -/
def prospect (includes : List Include) :
    Except ResolveError (Except ResolveError (List Directive)) := do
  return collect ctx.searched (← collect ctx.branch includes)

variable {ctx} {i : Include} {d : Directive}

theorem branch_of_verdict {b : Bool} (h : ctx.verdict (ctx.recordForm i) = .ok b) :
    ctx.branch i = .ok (if b then (ctx.recordForm i).fanOut else []) := by
  unfold branch kept
  rw [h]
  cases b with
  | true => exact congrArg Except.ok (List.flatMap_singleton ..)
  | false => rfl

theorem branch_of_verdict_error {e : SourceError}
    (h : ctx.verdict (ctx.recordForm i) = .error e) : ctx.branch i = .error (.collaborator e) := by
  unfold branch kept
  rw [h]
  rfl

theorem verdict_of_rules_none (h : d.rules = none) : ctx.verdict d = .ok true := by
  unfold verdict
  rw [h]

theorem verdict_of_rules {rules : List Rule} (h : d.rules = some rules) :
    ctx.verdict d = ctx.evaluate ctx.toSetting rules := by
  unfold verdict
  rw [h]

/-- A directive without rules goes to the search once for each file that it names. -/
theorem branch_of_rules_none (hrules : (ctx.recordForm i).rules = none) :
    ctx.branch i = .ok (ctx.recordForm i).fanOut := by
  rw [branch_of_verdict (verdict_of_rules_none hrules), if_pos rfl]

/-- A directive without rules and without a project goes to the search as it is. -/
theorem branch_of_unguarded (hrules : (ctx.recordForm i).rules = none)
    (hproject : (ctx.recordForm i).project = none) : ctx.branch i = .ok [ctx.recordForm i] := by
  rw [branch_of_rules_none hrules, Directive.fanOut_of_project_none hproject]

theorem searched_of_wildcard?_none (h : d.wildcard? = none) : ctx.searched d = .ok [d] := by
  unfold searched matching
  rw [h]
  rfl

/-- The search looks at nothing but the wildcard. -/
theorem searched_congr {pattern : String} {e : Directive} (h : d.wildcard? = some pattern)
    (h' : e.wildcard? = some pattern) : ctx.searched d = ctx.searched e := by
  unfold searched matching
  rw [h, h']

theorem searched_of_search {pattern : String} {paths : List String}
    (h : d.wildcard? = some pattern) (hsearch : ctx.repository.search ctx.scope pattern = .ok paths) :
    ctx.searched d = .ok (paths.map Directive.ofLocal) := by
  unfold searched matching
  simp only [h, hsearch]
  rfl

theorem searched_of_search_error {pattern : String} {e : SourceError}
    (h : d.wildcard? = some pattern) (hsearch : ctx.repository.search ctx.scope pattern = .error e) :
    ctx.searched d = .error (.collaborator e) := by
  unfold searched matching
  simp only [h, hsearch]
  rfl

variable (ctx)

/-! ## What a list comes to -/

/-- What the rules and the fan-out make of a list of includes, entry by entry. -/
theorem collect_branch (includes : List Include) :
    collect ctx.branch includes = do
      let active ← (ctx.recordForms includes).mapM ctx.kept
      return (active.filterMap id).flatMap Directive.fanOut := by
  induction includes with
  | nil => rfl
  | cons i includes ih =>
    have hforms : ctx.recordForms (i :: includes) = ctx.recordForm i :: ctx.recordForms includes :=
      rfl
    -- The head as a list of its own, so that it is collected apart from the rest.
    change collect ctx.branch ([i] ++ includes) = _
    rw [collect_append, collect_singleton, ih, hforms, List.mapM_cons, branch]
    cases ctx.kept (ctx.recordForm i) with
    | error e => rfl
    | ok kept =>
      cases (ctx.recordForms includes).mapM ctx.kept with
      | error e => rfl
      | ok active =>
        cases kept with
        | none => rfl
        | some d => exact congrArg Except.ok (by simp)

/-- The plan of a list puts the variables in what its prospect finds. -/
theorem plan_eq_prospect (includes : List Include) :
    ctx.plan includes = do
      let found ← ctx.prospect includes
      return (← found).map (Directive.interpolate ctx.vars) := by
  unfold prospect plan
  rw [collect_branch]
  cases (ctx.recordForms includes).mapM ctx.kept with
  | error e => rfl
  | ok active =>
    change ctx.locate ((active.filterMap id).flatMap Directive.fanOut) =
      (collect ctx.searched ((active.filterMap id).flatMap Directive.fanOut) >>= _)
    unfold locate collect
    cases ((active.filterMap id).flatMap Directive.fanOut).mapM ctx.searched <;> rfl

/-- **The stages before the recording act on every entry by itself.** The rules of both lists come
before the searches of either. -/
theorem prospect_append (xs ys : List Include) :
    ctx.prospect (xs ++ ys) = do
      let found ← ctx.prospect xs
      let rest ← ctx.prospect ys
      return do return (← found) ++ (← rest) := by
  unfold prospect
  rw [collect_append]
  cases collect ctx.branch xs with
  | error e => rfl
  | ok ds =>
    cases collect ctx.branch ys with
    | error e => rfl
    | ok ds' => exact congrArg Except.ok (collect_append ctx.searched ds ds')

variable {ctx}

/-- A lone entry without rules is searched for, once for each file that it names, and has the
variables put in. -/
theorem plan_of_rules_none (hform : ctx.recordForm i = d) (hrules : d.rules = none) :
    ctx.plan [i] = do
      return (← collect ctx.searched d.fanOut).map (Directive.interpolate ctx.vars) := by
  subst hform
  rw [plan_eq_prospect, prospect, collect_singleton, branch_of_rules_none hrules]
  rfl

/-- A lone entry that nothing guards is searched for and has the variables put in. -/
theorem plan_of_unguarded (hform : ctx.recordForm i = d) (hrules : d.rules = none)
    (hproject : d.project = none) :
    ctx.plan [i] = do return (← ctx.searched d).map (Directive.interpolate ctx.vars) := by
  rw [plan_of_rules_none hform hrules, Directive.fanOut_of_project_none hproject, collect_singleton]

/-! ## Success -/

variable {includes : List Include} {l l' : Ledger} {sources : List Source}

/-- A resolution succeeds when the stages before the recording do, the ledger admits all that they
find, and each of it fits one kind of source. -/
theorem resolution_eq_ok :
    ctx.resolution includes l = (.ok sources, l') ↔
      ∃ ds, ctx.plan includes = .ok ds ∧ l.Grows l' (ds.map ctx.entry) ∧
        ds.mapM ctx.sourceOf = .ok sources := by
  unfold resolution
  cases ctx.plan includes with
  | error e => simp
  | ok ds =>
    simp only [Except.ok.injEq, exists_eq_left']
    rcases hrec : l.recordAll (ds.map ctx.entry) with ⟨e | ⟨⟩, l₁⟩
    · have hno : ¬ l.Grows l' (ds.map ctx.entry) := fun hgrows => by
        cases hrec.symm.trans (Ledger.recordAll_eq_ok.mpr hgrows)
      simp [hno]
    · obtain ⟨hadm, rfl⟩ := Ledger.recordAll_eq_ok.mp hrec
      simp only [Prod.mk.injEq, Ledger.Grows, hadm, true_and]
      rw [and_comm, eq_comm]

/-- A resolution returns sources and leaves a ledger just when it does as a function of the
ledger. -/
theorem exists_runOn_resolve_iff {s : Session} {r : Except ResolveError (List Source)} :
    (∃ s', runOn (ctx.resolve includes) s = (r, s') ∧ s'.ledger = l') ↔
      ctx.resolution includes s.ledger = (r, l') := by
  obtain ⟨hout, hledger⟩ := ctx.follows_resolve includes s
  constructor
  · rintro ⟨s', hrun, rfl⟩
    rw [hrun] at hout hledger
    exact Prod.ext hout.symm hledger.symm
  · intro h
    rw [h] at hout hledger
    exact ⟨_, Prod.ext hout rfl, hledger⟩

/-- A resolution whose outcome is known to be some sources succeeds with them. -/
theorem runOn_resolve_of_toOption {s : Session}
    (h : (runOn (ctx.resolve includes) s).1.toOption = some sources) :
    runOn (ctx.resolve includes) s = (.ok sources, (runOn (ctx.resolve includes) s).2) := by
  refine Prod.ext ?_ rfl
  cases hout : (runOn (ctx.resolve includes) s).1 with
  | error e => rw [hout] at h; cases h
  | ok found => rw [hout] at h; rw [Option.some.inj h]

end Context

end IncludeTree
