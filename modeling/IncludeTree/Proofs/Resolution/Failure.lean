import IncludeTree.Proofs.Resolution.Stages

/-!
# How a resolution fails

`Context.Failure ctx includes l e l'` lists the ways in which the resolution of `includes` fails
when it finds the ledger `l`: the error `e` and the ledger `l'` that it leaves. The stages come
first and the entries second: a failing rule anywhere in the list wins over a failing search, that
over a directive that is refused by the ledger, and that over a directive that does not fit exactly
one kind of source. Within a stage the first entry wins. Rules and searches leave the ledger alone,
a refused directive leaves those before it, and an ambiguous one leaves all.

`resolve_eq_error_iff` says that a resolution fails in these ways and in no other.
-/

namespace IncludeTree.Context

open ResolveM

variable (ctx : Context) (includes : List Include)

/-! ## The list after each stage -/

/-- Whether the rules of every include can be evaluated. -/
def RulesEvaluate : Prop := ∀ d ∈ ctx.recordForms includes, ∃ b, ctx.verdict d = .ok b

/-- Whether the rules of a directive can be evaluated and keep it. -/
def isActive (d : Directive) : Bool :=
  match ctx.verdict d with
  | .ok b => b
  | .error _ => false

/-- The includes that their rules keep, one for each file that they name. -/
def fanned : List Directive :=
  ((ctx.recordForms includes).filter ctx.isActive).flatMap Directive.fanOut

/-- Whether every wildcard can be searched for. -/
def WildcardsSearch : Prop := ∀ d ∈ ctx.fanned includes, ∃ ds, ctx.matching d = .ok ds

/-- What a directive stands for, if it can be searched for. -/
def matched (d : Directive) : List Directive :=
  match ctx.matching d with
  | .ok ds => ds
  | .error _ => []

/-- The directives that are recorded: wildcards looked up, variables put in. -/
def located : List Directive :=
  ((ctx.fanned includes).flatMap ctx.matched).map (Directive.interpolate ctx.vars)

variable {ctx includes}

theorem kept_of_verdict {d : Directive} {b : Bool} (h : ctx.verdict d = .ok b) :
    ctx.kept d = .ok (Option.guard ctx.isActive d) := by
  unfold kept Option.guard isActive
  rw [h]
  cases b <;> rfl

theorem searched_of_matching {d : Directive} {ds : List Directive}
    (h : ctx.matching d = .ok ds) : ctx.searched d = .ok (ctx.matched d) := by
  unfold searched matched
  rw [h]
  rfl

theorem kept_eq_error {d : Directive} {e : ResolveError} :
    ctx.kept d = .error e ↔ ∃ e', ctx.verdict d = .error e' ∧ e = .collaborator e' := by
  unfold kept
  rcases ctx.verdict d with e' | ⟨_ | _⟩ <;> simp [eq_comm]

theorem exists_kept {d : Directive} :
    (∃ o, ctx.kept d = .ok o) ↔ ∃ b, ctx.verdict d = .ok b := by
  unfold kept
  rcases ctx.verdict d with e' | ⟨_ | _⟩ <;> simp

theorem searched_eq_error {d : Directive} {e : ResolveError} :
    ctx.searched d = .error e ↔ ∃ e', ctx.matching d = .error e' ∧ e = .collaborator e' := by
  unfold searched
  cases ctx.matching d <;> simp [Except.mapError, eq_comm]

theorem exists_searched {d : Directive} :
    (∃ ds, ctx.searched d = .ok ds) ↔ ∃ ds, ctx.matching d = .ok ds := by
  unfold searched
  cases ctx.matching d <;> simp [Except.mapError]

theorem sourceOf_eq_error {d : Directive} {e : ResolveError} :
    ctx.sourceOf d = .error e ↔ d.targets.length ≠ 1 ∧ e = .ambiguous d := by
  unfold sourceOf Directive.classify?
  rcases d.targets with _ | ⟨t, _ | ⟨t', ts⟩⟩ <;> simp [eq_comm]

theorem exists_sourceOf {d : Directive} :
    (∃ source, ctx.sourceOf d = .ok source) ↔ d.targets.length = 1 := by
  unfold sourceOf Directive.classify?
  rcases d.targets with _ | ⟨t, _ | ⟨t', ts⟩⟩ <;> simp

/-! ## The stages before the recording -/

theorem mapM_kept_of_rulesEvaluate (h : ctx.RulesEvaluate includes) :
    (ctx.recordForms includes).mapM ctx.kept =
      .ok ((ctx.recordForms includes).map (Option.guard ctx.isActive)) := by
  refine mapM_of_forall_ok fun d hd => ?_
  obtain ⟨b, hb⟩ := h d hd
  exact kept_of_verdict hb

/-- The stage of the rules fails with the first that cannot be evaluated. -/
theorem mapM_kept_eq_error {ds : List Directive} {e : ResolveError} :
    ds.mapM ctx.kept = .error e ↔
      ∃ before d after e', ds = before ++ d :: after ∧
        (∀ b ∈ before, ∃ v, ctx.verdict b = .ok v) ∧ ctx.verdict d = .error e' ∧
        e = .collaborator e' := by
  simp only [mapM_eq_error, exists_kept, kept_eq_error, exists_and_left]

theorem filterMap_guard_isActive (ds : List Directive) :
    (ds.map (Option.guard ctx.isActive)).filterMap id = ds.filter ctx.isActive := by
  rw [List.filterMap_map, Function.id_comp, List.filterMap_eq_filter]

/-- When all rules can be evaluated, the search goes through the includes that they keep. -/
theorem plan_of_rulesEvaluate (h : ctx.RulesEvaluate includes) :
    ctx.plan includes = ctx.locate (ctx.fanned includes) := by
  unfold plan
  rw [mapM_kept_of_rulesEvaluate h]
  change ctx.locate _ = _
  rw [filterMap_guard_isActive]
  rfl

/-- The rules fail, or all of them can be evaluated and the search decides. -/
theorem plan_cases (ctx : Context) (includes : List Include) :
    (∃ e, ¬ ctx.RulesEvaluate includes ∧ (ctx.recordForms includes).mapM ctx.kept = .error e ∧
      ctx.plan includes = .error e) ∨
    (ctx.RulesEvaluate includes ∧ ctx.plan includes = ctx.locate (ctx.fanned includes)) := by
  cases hkept : (ctx.recordForms includes).mapM ctx.kept with
  | error e =>
    refine .inl ⟨e, fun hrules => ?_, rfl, ?_⟩
    · cases hkept.symm.trans (mapM_kept_of_rulesEvaluate hrules)
    · unfold plan
      rw [hkept]
      rfl
  | ok os =>
    have hrules : ctx.RulesEvaluate includes := fun d hd =>
      exists_kept.mp (exists_ok_of_mapM_eq_ok hkept d hd)
    exact .inr ⟨hrules, plan_of_rulesEvaluate hrules⟩

theorem mapM_searched_of_wildcardsSearch (h : ctx.WildcardsSearch includes) :
    (ctx.fanned includes).mapM ctx.searched = .ok ((ctx.fanned includes).map ctx.matched) := by
  refine mapM_of_forall_ok fun d hd => ?_
  obtain ⟨ds, hds⟩ := h d hd
  exact searched_of_matching hds

/-- When all searches succeed as well, what is recorded is fixed. -/
theorem locate_of_wildcardsSearch (h : ctx.WildcardsSearch includes) :
    ctx.locate (ctx.fanned includes) = .ok (ctx.located includes) := by
  unfold locate
  rw [mapM_searched_of_wildcardsSearch h]
  change Except.ok _ = _
  rw [located, List.flatMap_def]

/-- The search goes through just when all wildcards can be searched for. -/
theorem locate_eq_ok {ds : List Directive} :
    ctx.locate (ctx.fanned includes) = .ok ds ↔
      ctx.WildcardsSearch includes ∧ ds = ctx.located includes := by
  constructor
  · intro h
    have hsearch : ctx.WildcardsSearch includes := by
      cases hfound : (ctx.fanned includes).mapM ctx.searched with
      | error e =>
        unfold locate at h
        rw [hfound] at h
        cases h
      | ok found => exact fun d hd => exists_searched.mp (exists_ok_of_mapM_eq_ok hfound d hd)
    rw [locate_of_wildcardsSearch hsearch] at h
    exact ⟨hsearch, (Except.ok.inj h).symm⟩
  · rintro ⟨hsearch, rfl⟩
    exact locate_of_wildcardsSearch hsearch

/-- The search fails with the first wildcard that cannot be searched for. -/
theorem locate_eq_error {ds : List Directive} {e : ResolveError} :
    ctx.locate ds = .error e ↔
      ∃ before d after e', ds = before ++ d :: after ∧
        (∀ b ∈ before, ∃ ds', ctx.matching b = .ok ds') ∧ ctx.matching d = .error e' ∧
        e = .collaborator e' := by
  have hsearched : ctx.locate ds = .error e ↔ ds.mapM ctx.searched = .error e := by
    unfold locate
    cases ds.mapM ctx.searched <;> simp [bind, Except.bind, pure, Except.pure]
  simp only [hsearched, mapM_eq_error, exists_searched, searched_eq_error, exists_and_left]

/-- The stages before the recording fail with the first rule that cannot be evaluated, or else with
the first wildcard that cannot be searched for. -/
theorem plan_eq_error {e : ResolveError} :
    ctx.plan includes = .error e ↔
      (∃ before d after e', ctx.recordForms includes = before ++ d :: after ∧
        (∀ b ∈ before, ∃ v, ctx.verdict b = .ok v) ∧ ctx.verdict d = .error e' ∧
        e = .collaborator e') ∨
      (ctx.RulesEvaluate includes ∧ ∃ before d after e',
        ctx.fanned includes = before ++ d :: after ∧
        (∀ b ∈ before, ∃ ds, ctx.matching b = .ok ds) ∧ ctx.matching d = .error e' ∧
        e = .collaborator e') := by
  rw [← mapM_kept_eq_error, ← locate_eq_error]
  rcases plan_cases ctx includes with ⟨e', hno, hkept, hplan⟩ | ⟨hrules, hplan⟩
  · rw [hplan, hkept]
    simp [hno]
  · rw [hplan, mapM_kept_of_rulesEvaluate hrules]
    simp [hrules]

/-- The stages before the recording succeed when all rules can be evaluated and all wildcards
searched for. -/
theorem plan_eq_ok {ds : List Directive} :
    ctx.plan includes = .ok ds ↔
      ctx.RulesEvaluate includes ∧ ctx.WildcardsSearch includes ∧ ds = ctx.located includes := by
  rw [← locate_eq_ok]
  rcases plan_cases ctx includes with ⟨e, hno, -, hplan⟩ | ⟨hrules, hplan⟩
  · rw [hplan]
    simp [hno]
  · rw [hplan, and_iff_right hrules]

/-! ## The ways to fail -/

/-- The ways in which a resolution fails: with which error, and leaving which ledger. -/
inductive Failure (ctx : Context) (includes : List Include) (l : Ledger) :
    ResolveError → Ledger → Prop where
  /-- The rules of an include cannot be evaluated; those before it can. -/
  | rule {before d after e} :
      ctx.recordForms includes = before ++ d :: after →
      (∀ b ∈ before, ∃ v, ctx.verdict b = .ok v) →
      ctx.verdict d = .error e →
      Failure ctx includes l (.collaborator e) l
  /-- A wildcard cannot be searched for; those before it can, and all rules can be evaluated. -/
  | search {before d after e} :
      ctx.RulesEvaluate includes →
      ctx.fanned includes = before ++ d :: after →
      (∀ b ∈ before, ∃ ds, ctx.matching b = .ok ds) →
      ctx.matching d = .error e →
      Failure ctx includes l (.collaborator e) l
  /-- A directive finds the ledger full, whether or not it has been recorded before. -/
  | full {before d after} :
      ctx.RulesEvaluate includes → ctx.WildcardsSearch includes →
      ctx.located includes = before ++ d :: after →
      l.Admits (before.map ctx.entry) →
      l.limit ≤ l.size + before.length →
      Failure ctx includes l (.tooMany l.limit) (l.append (before.map ctx.entry))
  /-- A directive finds room but has been recorded before in its scope. -/
  | duplicate {before d after} :
      ctx.RulesEvaluate includes → ctx.WildcardsSearch includes →
      ctx.located includes = before ++ d :: after →
      l.Admits (before.map ctx.entry) →
      l.size + before.length < l.limit →
      ctx.entry d ∈ l.entries ++ before.map ctx.entry →
      Failure ctx includes l (.duplicate d) (l.append (before.map ctx.entry))
  /-- A directive does not fit exactly one kind of source; all have been recorded. -/
  | ambiguous {before d after} :
      ctx.RulesEvaluate includes → ctx.WildcardsSearch includes →
      l.Admits ((ctx.located includes).map ctx.entry) →
      ctx.located includes = before ++ d :: after →
      (∀ b ∈ before, b.targets.length = 1) →
      d.targets.length ≠ 1 →
      Failure ctx includes l (.ambiguous d) (l.append ((ctx.located includes).map ctx.entry))

/-- A ledger refuses the entry of a directive because it is full or because it has it. -/
theorem record_entry_eq_error {l : Ledger} {d : Directive} {e : ResolveError} :
    l.record (ctx.entry d) = .error e ↔
      (l.limit ≤ l.size ∧ e = .tooMany l.limit) ∨
      (l.size < l.limit ∧ ctx.entry d ∈ l.entries ∧ e = .duplicate d) := Ledger.record_eq_error

/-- Recording the directives of a list stops at the first that is refused. -/
theorem recordAll_entry_eq_error {l l' : Ledger} {ds : List Directive} {e : ResolveError} :
    l.recordAll (ds.map ctx.entry) = (.error e, l') ↔
      ∃ before d after, ds = before ++ d :: after ∧ l.Admits (before.map ctx.entry) ∧
        (l.append (before.map ctx.entry)).record (ctx.entry d) = .error e ∧
        l' = l.append (before.map ctx.entry) := by
  rw [Ledger.recordAll_eq_error]
  constructor
  · rintro ⟨before, x, after, hsplit, hadm, herr, rfl⟩
    obtain ⟨ds₁, rest, rfl, rfl, hrest⟩ := List.map_eq_append_iff.mp hsplit
    obtain ⟨d, ds₂, rfl, rfl, rfl⟩ := List.map_eq_cons_iff.mp hrest
    exact ⟨ds₁, d, ds₂, rfl, hadm, herr, rfl⟩
  · rintro ⟨before, d, after, rfl, hadm, herr, rfl⟩
    exact ⟨before.map ctx.entry, ctx.entry d, after.map ctx.entry, by simp, hadm, herr, rfl⟩

/-- A resolution that fails does so in one of the ways of `Failure`. -/
theorem Failure.of_resolution {l l' : Ledger} {e : ResolveError}
    (h : ctx.resolution includes l = (.error e, l')) : Failure ctx includes l e l' := by
  cases hplan : ctx.plan includes with
  | error e' =>
    rw [resolution_of_plan_error hplan] at h
    obtain ⟨herr, rfl⟩ := Prod.mk.inj h
    obtain rfl := Except.error.inj herr
    rcases plan_eq_error.mp hplan with ⟨before, d, after, e, hsplit, hbefore, hd, rfl⟩ |
      ⟨hrules, before, d, after, e, hsplit, hbefore, hd, rfl⟩
    · exact .rule hsplit hbefore hd
    · exact .search hrules hsplit hbefore hd
  | ok ds =>
    obtain ⟨hrules, hsearch, rfl⟩ := plan_eq_ok.mp hplan
    rcases hrec : l.recordAll ((ctx.located includes).map ctx.entry) with ⟨e' | ⟨⟩, l₁⟩
    · rw [resolution_of_recordAll_error hplan hrec] at h
      obtain ⟨herr, rfl⟩ := Prod.mk.inj h
      obtain rfl := Except.error.inj herr
      obtain ⟨before, d, after, hsplit, hadm, hrefuse, rfl⟩ := recordAll_entry_eq_error.mp hrec
      rcases record_entry_eq_error.mp hrefuse with ⟨hfull, rfl⟩ | ⟨hroom, hmem, rfl⟩
      · exact .full hrules hsearch hsplit hadm (by simpa using hfull)
      · exact .duplicate hrules hsearch hsplit hadm (by simpa using hroom) hmem
    · obtain ⟨hadm, rfl⟩ := Ledger.recordAll_eq_ok.mp hrec
      rw [resolution_of_admits hplan hadm] at h
      obtain ⟨herr, rfl⟩ := Prod.mk.inj h
      obtain ⟨before, d, after, hsplit, hbefore, hd⟩ := mapM_eq_error.mp herr
      obtain ⟨hkinds, rfl⟩ := sourceOf_eq_error.mp hd
      exact .ambiguous hrules hsearch hadm hsplit
        (fun b hb => exists_sourceOf.mp (hbefore b hb)) hkinds

/-- Each of the ways of `Failure` is the outcome of the resolution. -/
theorem Failure.resolution_eq {l l' : Ledger} {e : ResolveError}
    (h : Failure ctx includes l e l') : ctx.resolution includes l = (.error e, l') := by
  cases h with
  | rule hsplit hbefore hd =>
    exact resolution_of_plan_error
      (plan_eq_error.mpr (.inl ⟨_, _, _, _, hsplit, hbefore, hd, rfl⟩)) l
  | search hrules hsplit hbefore hd =>
    exact resolution_of_plan_error
      (plan_eq_error.mpr (.inr ⟨hrules, _, _, _, _, hsplit, hbefore, hd, rfl⟩)) l
  | full hrules hsearch hsplit hadm hfull =>
    refine resolution_of_recordAll_error (plan_eq_ok.mpr ⟨hrules, hsearch, rfl⟩)
      (recordAll_entry_eq_error.mpr ⟨_, _, _, hsplit, hadm, ?_, rfl⟩)
    exact record_entry_eq_error.mpr (.inl ⟨by simpa using hfull, rfl⟩)
  | duplicate hrules hsearch hsplit hadm hroom hmem =>
    refine resolution_of_recordAll_error (plan_eq_ok.mpr ⟨hrules, hsearch, rfl⟩)
      (recordAll_entry_eq_error.mpr ⟨_, _, _, hsplit, hadm, ?_, rfl⟩)
    exact record_entry_eq_error.mpr (.inr ⟨by simpa using hroom, hmem, rfl⟩)
  | ambiguous hrules hsearch hadm hsplit hbefore hd =>
    rw [resolution_of_admits (plan_eq_ok.mpr ⟨hrules, hsearch, rfl⟩) hadm, mapM_eq_error.mpr]
    exact ⟨_, _, _, hsplit, fun b hb => exists_sourceOf.mpr (hbefore b hb),
      sourceOf_eq_error.mpr ⟨hd, rfl⟩⟩

/-- **How a resolution fails.** A resolution returns an error and leaves a ledger just when the two
are one of the ways of `Failure`. -/
theorem resolve_eq_error_iff (ctx : Context) (includes : List Include) (s : Session)
    (e : ResolveError) (l : Ledger) :
    (runOn (ctx.resolve includes) s).1 = .error e ∧
        (runOn (ctx.resolve includes) s).2.ledger = l ↔
      Failure ctx includes s.ledger e l := by
  obtain ⟨hout, hledger⟩ := ctx.follows_resolve includes s
  rw [hout, hledger]
  constructor
  · rintro ⟨herr, rfl⟩
    exact Failure.of_resolution (Prod.ext herr rfl)
  · intro h
    rw [h.resolution_eq]
    exact ⟨rfl, rfl⟩

end IncludeTree.Context
