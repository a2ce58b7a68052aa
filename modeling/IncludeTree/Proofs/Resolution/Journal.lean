import IncludeTree.Proofs.Expansion.Limit
import IncludeTree.Proofs.Journal.Stages
import IncludeTree.Proofs.Resolution.Composition

/-!
# What the observation of stages does

Whether the stages are observed has no part in what a resolution or an expansion comes to, whatever
the fetcher is (`byLedger_drain`, `byLedger_expand`). What is observed is which stages were entered:
`Context.Observed ctx includes l tally` lists, for a resolution that finds the ledger `l`, the
places where it may stop and how often each stage has been entered by then, as a `Stage.Tally`.

`observation_only_counts` says both.
-/

namespace IncludeTree

/-- How often each of the stages is entered. -/
structure Stage.Tally where
  /-- Whole resolutions. -/
  process : Nat := 0
  /-- Entries brought into record form. -/
  normalize : Nat := 0
  /-- Directives whose rules are evaluated. -/
  rules : Nat := 0
  /-- Directives that are looked up. -/
  wildcards : Nat := 0
  /-- Texts and directives that variables are put in. -/
  interpolate : Nat := 0
  /-- Directives that are recorded. -/
  verify : Nat := 0
  /-- Directives that are classified. -/
  select : Nat := 0
deriving DecidableEq, Repr

/-- How often a stage is entered. -/
def Stage.Tally.count (t : Tally) : Stage → Nat
  | .process => t.process
  | .normalize => t.normalize
  | .rules => t.rules
  | .wildcards => t.wildcards
  | .interpolate => t.interpolate
  | .verify => t.verify
  | .select => t.select

theorem Stage.Tally.eq_of_count_eq {t t' : Tally} (h : ∀ stage, t.count stage = t'.count stage) :
    t = t' := by
  obtain ⟨p, n, r, w, i, v, s⟩ := t
  obtain ⟨p', n', r', w', i', v', s'⟩ := t'
  obtain rfl : p = p' := h .process
  obtain rfl : n = n' := h .normalize
  obtain rfl : r = r' := h .rules
  obtain rfl : w = w' := h .wildcards
  obtain rfl : i = i' := h .interpolate
  obtain rfl : v = v' := h .verify
  obtain rfl : s = s' := h .select
  rfl

/-- Whether an include is a bare string. -/
def Include.isText : Include → Bool
  | .path _ => true
  | .directive _ => false

namespace Context

open ResolveM

variable (ctx : Context) {includes : List Include} {s t : Session}

/-! ## The outcome -/

/-- The context with its stages observed or not. -/
def withObservation (ctx : Context) (instrumented : Bool) : Context := { ctx with instrumented }

variable (b b' : Bool)

theorem byLedger_resolve_congr (h : s.ledger = t.ledger) :
    byLedger (runOn ((ctx.withObservation b).resolve includes) s) =
      byLedger (runOn ((ctx.withObservation b').resolve includes) t) := by
  rw [byLedger_resolve, byLedger_resolve, h]
  rfl

theorem byLedger_nestedSources (p : Pending) (fetched : Fetched) (h : s.ledger = t.ledger) :
    byLedger (runOn ((ctx.withObservation b).nestedSources p fetched) s) =
      byLedger (runOn ((ctx.withObservation b').nestedSources p fetched) t) := by
  cases hread : Include.listOfText fetched.content with
  | error e =>
    rw [runOn_nestedSources_of_error _ p hread, runOn_nestedSources_of_error _ p hread]
    exact congrArg (Prod.mk _) h
  | ok includes =>
    rw [runOn_nestedSources_of_ok _ p hread, runOn_nestedSources_of_ok _ p hread]
    exact byLedger_resolve_congr (ctx.nested fetched.scope) b b' h

section fetcher

variable {m : Type → Type} [Monad m] [LawfulMonad m]

/-- What is made of an outcome can be made of it without the journal. -/
theorem map_byLedger_bind {α β : Type} (x : m (Except ResolveError α × Session))
    (g : Except ResolveError α → Except ResolveError β) :
    byLedger <$> (x >>= fun r => pure (g r.1, r.2)) =
      (fun r => (g r.1, r.2)) <$> byLedger <$> x := by
  rw [map_bind, map_eq_pure_bind, map_eq_pure_bind, bind_assoc]
  refine congrArg (x >>= ·) (funext fun r => ?_)
  rw [map_pure, pure_bind]
  rfl

/-- A work list is drained alike whether or not the stages are observed, and whatever the journal
holds. -/
theorem byLedger_drain (fetch : Source → m (Except SourceError Fetched)) (pending : List Pending)
    (s t : Session) (h : s.ledger = t.ledger) :
    byLedger <$> (ctx.withObservation b).drain fetch pending s =
      byLedger <$> (ctx.withObservation b').drain fetch pending t := by
  match pending with
  | [] =>
    rw [drain_nil, drain_nil, map_pure, map_pure]
    exact congrArg (fun l => pure (Except.ok [], l)) h
  | p :: rest =>
    rw [drain_cons, drain_cons, map_bind, map_bind]
    refine congrArg (fetch p.source >>= ·) (funext fun answer => ?_)
    cases answer with
    | error e =>
      rw [map_pure, map_pure]
      exact congrArg (fun l => pure (Except.error _, l)) h
    | ok fetched =>
      have hnested := byLedger_nestedSources ctx b b' (s := s.add (.fetching p.source p.depth))
        (t := t.add (.fetching p.source p.depth)) p fetched h
      dsimp only
      rcases hs : runOn ((ctx.withObservation b).nestedSources p fetched)
        (s.add (.fetching p.source p.depth)) with ⟨x, s'⟩
      rcases ht : runOn ((ctx.withObservation b').nestedSources p fetched)
        (t.add (.fetching p.source p.depth)) with ⟨y, t'⟩
      rw [hs, ht] at hnested
      obtain ⟨rfl, hledger⟩ := Prod.mk.inj hnested
      cases x with
      | error e =>
        rw [map_pure, map_pure]
        exact congrArg (fun l => pure (Except.error e, l)) hledger
      | ok sources =>
        have hrest := byLedger_drain fetch (waitingAt (p.depth + 1) sources ++ rest) s' t' hledger
        exact (map_byLedger_bind _ _).trans ((congrArg _ hrest).trans (map_byLedger_bind _ _).symm)
termination_by s.ledger.room + pending.length
decreasing_by
  have hroom := room_nestedSources hs
  rw [Session.add_ledger] at hroom
  simp only [waitingAt, List.length_append, List.length_map, List.length_cons]
  omega

/-- An expansion comes to the same whether or not the stages are observed. -/
theorem byLedger_expand (fetch : Source → m (Except SourceError Fetched)) (s : Session) :
    byLedger <$> (ctx.withObservation b).expand fetch includes s =
      byLedger <$> (ctx.withObservation b').expand fetch includes s := by
  have hresolve : byLedger (runOn ((ctx.withObservation b).resolve includes) s) =
      byLedger (runOn ((ctx.withObservation b').resolve includes) s) :=
    byLedger_resolve_congr ctx b b' rfl
  unfold expand
  rcases hs : runOn ((ctx.withObservation b).resolve includes) s with ⟨x, s'⟩
  rcases ht : runOn ((ctx.withObservation b').resolve includes) s with ⟨y, t'⟩
  rw [hs, ht] at hresolve
  obtain ⟨rfl, hledger⟩ := Prod.mk.inj hresolve
  cases x with
  | error e =>
    dsimp only
    rw [map_pure, map_pure]
    exact congrArg (fun l => pure (Except.error e, l)) hledger
  | ok sources => exact byLedger_drain ctx b b' fetch (waitingAt 0 sources) s' t' hledger

end fetcher

/-! ## The places where a resolution may stop -/

/-- The places where a resolution may stop, and how often each stage has been entered by then. -/
inductive Observed (ctx : Context) (includes : List Include) (l : Ledger) : Stage.Tally → Prop where
  /-- There is no include. -/
  | nothing : includes = [] → Observed ctx includes l {}
  /-- The rules of an include cannot be evaluated; those before it can. -/
  | rule {before after : List Directive} {d : Directive} {e : SourceError} :
      ctx.recordForms includes = before ++ d :: after →
      (∀ b ∈ before, ∃ v, ctx.verdict b = .ok v) →
      ctx.verdict d = .error e →
      Observed ctx includes l {
        process := 1
        normalize := includes.length
        interpolate := includes.countP Include.isText
        rules := before.length + 1 }
  /-- A wildcard cannot be searched for; those before it can, and all rules can be evaluated. -/
  | search {before after : List Directive} {d : Directive} {e : SourceError} :
      ctx.RulesEvaluate includes →
      ctx.fanned includes = before ++ d :: after →
      (∀ b ∈ before, ∃ ds, ctx.matching b = .ok ds) →
      ctx.matching d = .error e →
      Observed ctx includes l {
        process := 1
        normalize := includes.length
        interpolate := includes.countP Include.isText
        rules := includes.length
        wildcards := before.length + 1 }
  /-- A directive is refused by the ledger; those before it are recorded. -/
  | refused {before after : List Directive} {d : Directive} {e : ResolveError} :
      ctx.RulesEvaluate includes → ctx.WildcardsSearch includes →
      ctx.located includes = before ++ d :: after →
      l.Admits (before.map ctx.entry) →
      (l.append (before.map ctx.entry)).record (ctx.entry d) = .error e →
      Observed ctx includes l {
        process := 1
        normalize := includes.length
        rules := includes.length
        wildcards := (ctx.fanned includes).length
        interpolate := includes.countP Include.isText + (ctx.located includes).length
        verify := before.length + 1 }
  /-- A directive does not fit exactly one kind of source; those before it do, and all have been
  recorded. -/
  | ambiguous {before after : List Directive} {d : Directive} :
      ctx.RulesEvaluate includes → ctx.WildcardsSearch includes →
      l.Admits ((ctx.located includes).map ctx.entry) →
      ctx.located includes = before ++ d :: after →
      (∀ b ∈ before, b.targets.length = 1) →
      d.targets.length ≠ 1 →
      Observed ctx includes l {
        process := 1
        normalize := includes.length
        rules := includes.length
        wildcards := (ctx.fanned includes).length
        interpolate := includes.countP Include.isText + (ctx.located includes).length
        verify := (ctx.located includes).length
        select := before.length + 1 }
  /-- All directives are recorded and classified. -/
  | resolved :
      includes ≠ [] →
      ctx.RulesEvaluate includes → ctx.WildcardsSearch includes →
      l.Admits ((ctx.located includes).map ctx.entry) →
      (∀ d ∈ ctx.located includes, d.targets.length = 1) →
      Observed ctx includes l {
        process := 1
        normalize := includes.length
        rules := includes.length
        wildcards := (ctx.fanned includes).length
        interpolate := includes.countP Include.isText + (ctx.located includes).length
        verify := (ctx.located includes).length
        select := (ctx.located includes).length }

/-! ## The stages up to such a place -/

variable {ctx} {l : Ledger} {before after : List Directive} {d : Directive}

/-- The stages in which entries are brought into record form. -/
theorem count_flatMap_stages (includes : List Include) (stage : Stage) :
    (includes.flatMap Include.stages).count stage =
      ({ normalize := includes.length, interpolate := includes.countP Include.isText } :
        Stage.Tally).count stage := by
  induction includes with
  | nil => cases stage <;> rfl
  | cons i includes ih =>
    rw [List.flatMap_cons, List.count_append, ih]
    cases i <;> cases stage <;>
      simp [Include.stages, Include.isText, Stage.Tally.count, List.countP_cons, Nat.add_comm]

theorem count_flatMap_single {α : Type} (as : List α) (entered stage : Stage) :
    (as.flatMap fun _ => [entered]).count stage = if entered = stage then as.length else 0 := by
  induction as with
  | nil => simp
  | cons a as ih =>
    rw [List.flatMap_cons, List.count_append, ih]
    by_cases h : entered = stage <;> simp [h, Nat.add_comm]

theorem passes_normalize (ctx : Context) (includes : List Include) (l : Ledger) :
    Passes ctx (includes.mapM ctx.normalize) l (.ok (ctx.recordForms includes), l)
      (includes.flatMap Include.stages) := by
  obtain ⟨normal, hnormal, hpasses⟩ := Settles.passes_mapM ctx.settles_normalize
    ctx.enters_normalize (fun i (_ : i ∈ includes) => ⟨_, rfl⟩) l
  rw [mapM_of_forall_ok fun _ _ => rfl] at hnormal
  obtain rfl : ctx.recordForms includes = normal := Except.ok.inj hnormal
  exact hpasses

/-- The stages up to the first rule that cannot be evaluated. -/
theorem passes_directives_of_rule {e : SourceError}
    (hsplit : ctx.recordForms includes = before ++ d :: after)
    (hbefore : ∀ b ∈ before, ∃ v, ctx.verdict b = .ok v) (hd : ctx.verdict d = .error e) :
    Passes ctx (ctx.directives includes) l (.error (.collaborator e), l)
      (includes.flatMap Include.stages ++ (before ++ [d]).flatMap fun _ => [Stage.rules]) := by
  have hkeep : Passes ctx ((ctx.recordForms includes).mapM ctx.keep) l
      (.error (.collaborator e), l) ((before ++ [d]).flatMap fun _ => [Stage.rules]) :=
    hsplit ▸ Settles.passes_mapM_error ctx.settles_keep ctx.enters_keep
      (fun b hb => exists_kept.mpr (hbefore b hb)) (kept_eq_error.mpr ⟨e, hd, rfl⟩) l
  exact (ctx.passes_normalize includes l).bind_ok hkeep.bind_error

/-- The stages when all rules can be evaluated: what they keep is looked up and interpolated. -/
theorem passes_directives_of_rulesEvaluate {r : Except ResolveError (List Directive) × Ledger}
    {stages : List Stage} (hrules : ctx.RulesEvaluate includes)
    (h : Passes ctx ((ctx.fanned includes).mapM ctx.expandWildcard >>= fun found =>
      found.flatten.mapM ctx.interpolate) l r stages) :
    Passes ctx (ctx.directives includes) l r
      (includes.flatMap Include.stages ++
        (((ctx.recordForms includes).flatMap fun _ => [Stage.rules]) ++ stages)) := by
  obtain ⟨kept, hkept, hkeep⟩ := Settles.passes_mapM ctx.settles_keep ctx.enters_keep
    (fun d hd => exists_kept.mpr (hrules d hd)) l
  rw [mapM_kept_of_rulesEvaluate hrules] at hkept
  obtain rfl := Except.ok.inj hkept
  refine (ctx.passes_normalize includes l).bind_ok (hkeep.bind_ok ?_)
  rw [filterMap_guard_isActive]
  exact h

/-- The stages up to the first wildcard that cannot be searched for. -/
theorem passes_directives_of_search {e : SourceError} (hrules : ctx.RulesEvaluate includes)
    (hsplit : ctx.fanned includes = before ++ d :: after)
    (hbefore : ∀ b ∈ before, ∃ ds, ctx.matching b = .ok ds) (hd : ctx.matching d = .error e) :
    Passes ctx (ctx.directives includes) l (.error (.collaborator e), l)
      (includes.flatMap Include.stages ++
        (((ctx.recordForms includes).flatMap fun _ => [Stage.rules]) ++
          (before ++ [d]).flatMap fun _ => [Stage.wildcards])) := by
  have hexpand : Passes ctx ((ctx.fanned includes).mapM ctx.expandWildcard) l
      (.error (.collaborator e), l) ((before ++ [d]).flatMap fun _ => [Stage.wildcards]) :=
    hsplit ▸ Settles.passes_mapM_error ctx.settles_expandWildcard ctx.enters_expandWildcard
      (fun b hb => exists_searched.mpr (hbefore b hb)) (searched_eq_error.mpr ⟨e, hd, rfl⟩) l
  exact passes_directives_of_rulesEvaluate hrules hexpand.bind_error

/-- The stages before the recording, when none of them fails. -/
def stagesToLocate (ctx : Context) (includes : List Include) : List Stage :=
  includes.flatMap Include.stages ++
    (((ctx.recordForms includes).flatMap fun _ => [Stage.rules]) ++
      (((ctx.fanned includes).flatMap fun _ => [Stage.wildcards]) ++
        (ctx.located includes).flatMap fun _ => [Stage.interpolate]))

theorem passes_directives (hrules : ctx.RulesEvaluate includes)
    (hsearch : ctx.WildcardsSearch includes) :
    Passes ctx (ctx.directives includes) l (.ok (ctx.located includes), l)
      (ctx.stagesToLocate includes) := by
  obtain ⟨found, hfound, hexpand⟩ := Settles.passes_mapM ctx.settles_expandWildcard
    ctx.enters_expandWildcard (fun d hd => exists_searched.mpr (hsearch d hd)) l
  rw [mapM_searched_of_wildcardsSearch hsearch] at hfound
  obtain rfl := Except.ok.inj hfound
  obtain ⟨ds, hds, hinterpolate⟩ := Settles.passes_mapM ctx.settles_interpolate
    ctx.enters_interpolate (fun d (_ : d ∈ ((ctx.fanned includes).map ctx.matched).flatten) =>
      ⟨_, rfl⟩) l
  rw [mapM_of_forall_ok fun _ _ => rfl] at hds
  have hlocated : ctx.located includes = ds := by
    rw [located, List.flatMap_def]
    exact Except.ok.inj hds
  have hstages : ((ctx.located includes).flatMap fun _ => [Stage.interpolate]) =
      (((ctx.fanned includes).map ctx.matched).flatten.flatMap fun _ => [Stage.interpolate]) := by
    rw [← List.flatMap_def, located, List.flatMap_map]
  unfold stagesToLocate
  rw [hstages, hlocated]
  exact passes_directives_of_rulesEvaluate hrules (hexpand.bind_ok hinterpolate)

theorem passes_resolve {r : Except ResolveError (List Source) × Ledger} {stages : List Stage}
    (hne : includes ≠ [])
    (h : Passes ctx (ctx.directives includes >>= fun ds =>
      ds.forM ctx.record >>= fun _ => ds.mapM ctx.select) l r stages) :
    Passes ctx (ctx.resolve includes) l r (.process :: stages) := by
  have hempty : includes.isEmpty = false := List.isEmpty_eq_false_iff.mpr hne
  unfold resolve
  rw [if_neg (by simp [hempty])]
  refine Passes.timed ?_ _
  exact Passes.bind_ok ((settles_note _).passes (enters_note rfl) l) h

/-- The stages when everything is located: the rest records and classifies it. -/
theorem passes_resolve_of_located {r : Except ResolveError (List Source) × Ledger}
    {stages : List Stage} (hne : includes ≠ []) (hrules : ctx.RulesEvaluate includes)
    (hsearch : ctx.WildcardsSearch includes)
    (h : Passes ctx ((ctx.located includes).forM ctx.record >>= fun _ =>
      (ctx.located includes).mapM ctx.select) l r stages) :
    Passes ctx (ctx.resolve includes) l r (.process :: (ctx.stagesToLocate includes ++ stages)) :=
  passes_resolve hne ((passes_directives hrules hsearch).bind_ok h)

/-- Every resolution stops at one of these places. -/
theorem exists_observed (ctx : Context) (includes : List Include) (l : Ledger) :
    ∃ tally, Observed ctx includes l tally := by
  by_cases hne : includes = []
  · exact ⟨_, .nothing hne⟩
  rcases hresolution : ctx.resolution includes l with ⟨e | sources, l'⟩
  · cases Failure.of_resolution hresolution with
    | rule hsplit hbefore hd => exact ⟨_, .rule hsplit hbefore hd⟩
    | search hrules hsplit hbefore hd => exact ⟨_, .search hrules hsplit hbefore hd⟩
    | full hrules hsearch hsplit hadm hfull =>
      exact ⟨_, .refused hrules hsearch hsplit hadm
        (record_entry_eq_error.mpr (.inl ⟨by simpa using hfull, rfl⟩))⟩
    | duplicate hrules hsearch hsplit hadm hroom hmem =>
      exact ⟨_, .refused hrules hsearch hsplit hadm
        (record_entry_eq_error.mpr (.inr ⟨by simpa using hroom, hmem, rfl⟩))⟩
    | ambiguous hrules hsearch hadm hsplit hbefore hd =>
      exact ⟨_, .ambiguous hrules hsearch hadm hsplit hbefore hd⟩
  · obtain ⟨ds, hplan, hgrows, hsources⟩ := resolution_eq_ok.mp hresolution
    obtain ⟨hrules, hsearch, rfl⟩ := plan_eq_ok.mp hplan
    exact ⟨_, .resolved hne hrules hsearch hgrows.1 fun d hd =>
      exists_sourceOf.mp (exists_ok_of_mapM_eq_ok hsources d hd)⟩

/-- There is something to be resolved if a stage has an entry. -/
theorem ne_nil_of_split (entries : List Include → List Directive) (hnil : entries [] = [])
    (h : entries includes = before ++ d :: after) : includes ≠ [] := by
  rintro rfl
  rw [hnil] at h
  exact List.append_ne_nil_of_right_ne_nil before (List.cons_ne_nil d after) h.symm

theorem count_stagesToLocate (ctx : Context) (includes : List Include) (stages : List Stage)
    (stage : Stage) :
    (.process :: (ctx.stagesToLocate includes ++ stages)).count stage =
      ({ process := 1
         normalize := includes.length
         rules := includes.length
         wildcards := (ctx.fanned includes).length
         interpolate := includes.countP Include.isText + (ctx.located includes).length } :
        Stage.Tally).count stage + stages.count stage := by
  rw [List.count_cons, List.count_append, Nat.add_right_comm]
  unfold stagesToLocate
  cases stage <;>
    simp [count_flatMap_stages, count_flatMap_single, recordForms, Stage.Tally.count]

/-- The stages that are entered up to such a place. -/
theorem Observed.exists_passes {tally : Stage.Tally} (h : Observed ctx includes l tally) :
    ∃ r stages, Passes ctx (ctx.resolve includes) l r stages ∧
      ∀ stage, stages.count stage = tally.count stage := by
  cases h with
  | nothing hnil =>
    subst hnil
    exact ⟨_, [], passes_pure [] l, fun stage => by cases stage <;> rfl⟩
  | rule hsplit hbefore hd =>
    have hdirectives := passes_directives_of_rule (l := l) hsplit hbefore hd
    refine ⟨_, _, passes_resolve (ne_nil_of_split ctx.recordForms rfl hsplit)
      hdirectives.bind_error, fun stage => ?_⟩
    cases stage <;> simp [count_flatMap_stages, count_flatMap_single, Stage.Tally.count]
  | search hrules hsplit hbefore hd =>
    have hdirectives := passes_directives_of_search (l := l) hrules hsplit hbefore hd
    refine ⟨_, _, passes_resolve (ne_nil_of_split ctx.fanned rfl hsplit)
      hdirectives.bind_error, fun stage => ?_⟩
    cases stage <;>
      simp [count_flatMap_stages, count_flatMap_single, recordForms, Stage.Tally.count]
  | @refused before after d e hrules hsearch hsplit hadm hd =>
    have hrecord : Passes ctx ((ctx.located includes).forM ctx.record) l
        (.error e, l.append (before.map ctx.entry))
        ((before ++ [d]).flatMap fun _ => [Stage.verify]) :=
      hsplit ▸ passes_forM_record_error hadm hd
    refine ⟨_, _, passes_resolve_of_located (ne_nil_of_split ctx.located rfl hsplit) hrules hsearch
      hrecord.bind_error, fun stage => ?_⟩
    rw [count_stagesToLocate]
    cases stage <;> simp [count_flatMap_single, Stage.Tally.count]
  | @ambiguous before after d hrules hsearch hadm hsplit hbefore hd =>
    have hselect : Passes ctx ((ctx.located includes).mapM ctx.select)
        (l.append ((ctx.located includes).map ctx.entry))
        (.error (.ambiguous d), l.append ((ctx.located includes).map ctx.entry))
        ((before ++ [d]).flatMap fun _ => [Stage.select]) :=
      hsplit ▸ Settles.passes_mapM_error ctx.settles_select ctx.enters_select
        (fun b hb => exists_sourceOf.mpr (hbefore b hb)) (sourceOf_eq_error.mpr ⟨hd, rfl⟩) _
    refine ⟨_, _, passes_resolve_of_located (ne_nil_of_split ctx.located rfl hsplit) hrules hsearch
      ((passes_forM_record hadm).bind_ok hselect), fun stage => ?_⟩
    rw [count_stagesToLocate]
    cases stage <;> simp [count_flatMap_single, Stage.Tally.count]
  | resolved hne hrules hsearch hadm hkinds =>
    obtain ⟨sources, -, hselect⟩ := Settles.passes_mapM ctx.settles_select ctx.enters_select
      (fun d hd => exists_sourceOf.mpr (hkinds d hd))
      (l.append ((ctx.located includes).map ctx.entry))
    refine ⟨_, _, passes_resolve_of_located hne hrules hsearch
      ((passes_forM_record hadm).bind_ok hselect), fun stage => ?_⟩
    rw [count_stagesToLocate]
    cases stage <;> simp [count_flatMap_single, Stage.Tally.count]

/-- How often each stage has been entered after a resolution. -/
theorem Observed.count_eq {tally : Stage.Tally} (h : Observed ctx includes s.ledger tally)
    (stage : Stage) :
    (runOn (ctx.resolve includes) s).2.journal.count stage =
      s.journal.count stage + if ctx.instrumented then tally.count stage else 0 := by
  obtain ⟨r, stages, hpasses, hcount⟩ := h.exists_passes
  obtain ⟨-, -, hstages⟩ := hpasses s rfl
  have hjournal : (runOn (ctx.resolve includes) s).2.journal.stages =
      s.journal.stages ++ ctx.observed stages := hstages
  rw [Journal.count_eq_count_stages, hjournal, List.count_append,
    ← Journal.count_eq_count_stages]
  unfold observed
  split
  · rw [hcount]
  · rfl

/-- **Observation only counts.** Whether the stages are observed makes no difference to the outcome
of a resolution or of an expansion, whatever is fetched, and none to the ledger. When they are, what
a resolution adds to the counts is what has been entered by the place where it stops; when they are
not, it is nothing. -/
theorem observation_only_counts {m : Type → Type} [Monad m] [LawfulMonad m] (ctx : Context)
    (fetch : Source → m (Except SourceError Fetched)) (includes : List Include) (s : Session) :
    byLedger (runOn ((ctx.withObservation true).resolve includes) s) =
      byLedger (runOn ((ctx.withObservation false).resolve includes) s) ∧
    byLedger <$> (ctx.withObservation true).expand fetch includes s =
      byLedger <$> (ctx.withObservation false).expand fetch includes s ∧
    (∀ stage, (runOn ((ctx.withObservation false).resolve includes) s).2.journal.count stage =
      s.journal.count stage) ∧
    ∀ tally : Stage.Tally,
      (∀ stage, (runOn ((ctx.withObservation true).resolve includes) s).2.journal.count stage =
        s.journal.count stage + tally.count stage) ↔
      Observed (ctx.withObservation true) includes s.ledger tally := by
  refine ⟨byLedger_resolve_congr ctx true false rfl, byLedger_expand ctx true false fetch s,
    fun stage => ?_, fun tally => ⟨fun hcount => ?_, fun h => h.count_eq⟩⟩
  · obtain ⟨tally, h⟩ := exists_observed (ctx.withObservation false) includes s.ledger
    exact h.count_eq stage
  · -- Some tally belongs to the place where the resolution stops, and the counts leave no other.
    obtain ⟨tally', h⟩ := exists_observed (ctx.withObservation true) includes s.ledger
    have hsame : ∀ stage, tally.count stage = tally'.count stage := fun stage =>
      Nat.add_left_cancel ((hcount stage).symm.trans (h.count_eq stage))
    rw [Stage.Tally.eq_of_count_eq hsame]
    exact h

/-- A path, a wildcard for two files, and the path once more, which is refused: the last of four
directives. -/
theorem observation_only_counts_sample :
    let includes : List Include :=
      [.path "a.yml", .directive (.ofLocal "ci/*.yml"), .path "a.yml"]
    Observed (twoFiles.withObservation true) includes {} {
      process := 1
      normalize := 3
      rules := 3
      wildcards := 3
      interpolate := 2 + 4
      verify := 4 } ∧
    byLedger (Id.run ((twoFiles.withObservation true).expand fetchSample includes {})) =
      byLedger (Id.run ((twoFiles.withObservation false).expand fetchSample includes {})) := by
  intro includes
  obtain ⟨-, hexpand, -, hcounts⟩ := observation_only_counts (m := Id) twoFiles
    fetchSample includes {}
  have hstages : (runOn ((twoFiles.withObservation true).resolve includes) {}).2.journal.stages =
      [.process,
        .normalize, .interpolate, .normalize, .normalize, .interpolate,
        .rules, .rules, .rules, .wildcards, .wildcards, .wildcards,
        .interpolate, .interpolate, .interpolate, .interpolate,
        .verify, .verify, .verify, .verify] := by
    decide +kernel
  refine ⟨(hcounts _).mp fun stage => ?_, hexpand⟩
  rw [Journal.count_eq_count_stages, hstages]
  cases stage <;> rfl

end Context

end IncludeTree
