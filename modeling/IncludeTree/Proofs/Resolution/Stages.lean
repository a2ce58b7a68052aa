import IncludeTree.Proofs.Ledger.Growth
import IncludeTree.Resolution

/-!
# Resolution as a function of the ledger

`ResolveM.Follows x g` says that what the computation `x` returns and the ledger that it leaves
depend on nothing but the ledger that it finds, as the function `g` says; `ResolveM.Settles x r`
that it returns `r` whatever it finds and leaves the ledger alone. Every stage of a resolution but
the recording settles: `Context.recordForm`, `Context.verdict`, `Context.matching` and
`Context.sourceOf` are what the stages come to on one entry, `Context.plan` what they come to on a
list up to the recording, and `Context.resolution` is the whole as a function of the ledger
(`follows_resolve`).
-/

namespace IncludeTree

/-! ## Computations that look at the ledger alone -/

namespace ResolveM

variable {α β : Type}

/-- What a computation returns and the ledger that it leaves depend on the ledger alone. -/
def Follows (x : ResolveM α) (g : Ledger → Except ResolveError α × Ledger) : Prop :=
  ∀ s, (runOn x s).1 = (g s.ledger).1 ∧ (runOn x s).2.ledger = (g s.ledger).2

/-- A computation returns the same in every session and leaves the ledger alone. -/
def Settles (x : ResolveM α) (r : Except ResolveError α) : Prop := Follows x fun l => (r, l)

theorem settles_pure (a : α) : Settles (pure a : ResolveM α) (.ok a) := fun _ => ⟨rfl, rfl⟩

theorem settles_throw (e : ResolveError) : Settles (throw e : ResolveM α) (.error e) :=
  fun _ => ⟨rfl, rfl⟩

theorem settles_note (event : Event) : Settles (note event) (.ok ()) := fun _ => ⟨rfl, rfl⟩

/-- The function that a sequence of two computations follows: the second starts from the ledger
that the first leaves, unless the first fails. -/
def andThen (g : Ledger → Except ResolveError α × Ledger)
    (h : α → Ledger → Except ResolveError β × Ledger) (l : Ledger) :
    Except ResolveError β × Ledger :=
  match g l with
  | (.ok a, l') => h a l'
  | (.error e, l') => (.error e, l')

theorem Follows.bind {x : ResolveM α} {f : α → ResolveM β}
    {g : Ledger → Except ResolveError α × Ledger}
    {h : α → Ledger → Except ResolveError β × Ledger}
    (hx : Follows x g) (hf : ∀ a, Follows (f a) (h a)) : Follows (x >>= f) (andThen g h) := by
  intro s
  obtain ⟨hout, hledger⟩ := hx s
  rw [runOn_bind]
  unfold andThen
  rcases hxs : runOn x s with ⟨e | a, s'⟩ <;> rcases hg : g s.ledger with ⟨e' | a', l'⟩ <;>
    rw [hxs, hg] at hout hledger <;> simp only at hout hledger ⊢
  · exact ⟨congrArg Except.error (Except.error.inj hout), hledger⟩
  · cases hout
  · cases hout
  · obtain rfl := Except.ok.inj hout
    obtain rfl := hledger
    exact hf a s'

theorem Follows.timed {x : ResolveM α} {g : Ledger → Except ResolveError α × Ledger}
    (hx : Follows x g) (ctx : Context) (stage : Stage) : Follows (ctx.timed stage x) g := by
  intro s
  rw [runOn_timed]
  have h := hx (ctx.entered stage s)
  rwa [Context.entered_ledger] at h

theorem Settles.bind {x : ResolveM α} {f : α → ResolveM β} {r : Except ResolveError α}
    {h : α → Except ResolveError β} (hx : Settles x r) (hf : ∀ a, Settles (f a) (h a)) :
    Settles (x >>= f) (r >>= h) := by
  have hfollows := Follows.bind hx hf
  intro s
  cases r with
  | error e => exact hfollows s
  | ok a => exact hfollows s

theorem Settles.mapM {f : α → ResolveM β} {g : α → Except ResolveError β}
    (hf : ∀ a, Settles (f a) (g a)) (as : List α) : Settles (as.mapM f) (as.mapM g) := by
  induction as with
  | nil => exact settles_pure []
  | cons a as ih =>
    rw [List.mapM_cons, List.mapM_cons]
    exact (hf a).bind fun b => ih.bind fun bs => settles_pure (b :: bs)

end ResolveM

/-! ## Traversals that may fail -/

section traversal

variable {α β ε : Type} {f : α → Except ε β}

/-- A traversal of entries that all succeed collects their results. -/
theorem mapM_of_forall_ok {g : α → β} {as : List α} (h : ∀ a ∈ as, f a = .ok (g a)) :
    as.mapM f = .ok (as.map g) := by
  induction as with
  | nil => rfl
  | cons a as ih =>
    obtain ⟨ha, has⟩ := List.forall_mem_cons.mp h
    rw [List.mapM_cons, ha, ih has]
    rfl

theorem mapM_eq_ok {as : List α} {bs : List β} :
    as.mapM f = .ok bs ↔ as.map f = bs.map .ok := by
  induction as generalizing bs with
  | nil => simp [pure, Except.pure, eq_comm]
  | cons a as ih =>
    rw [List.mapM_cons]
    cases ha : f a with
    | error e => cases bs <;> simp [bind, Except.bind, ha]
    | ok b =>
      cases has : as.mapM f with
      | error e =>
        have hno : ∀ cs : List β, as.map f ≠ cs.map .ok := fun cs hcs => by
          cases has.symm.trans (ih.mpr hcs)
        cases bs <;> simp [bind, Except.bind, ha, hno]
      | ok cs =>
        have hcs : as.map f = cs.map .ok := ih.mp has
        have hinj : Function.Injective (List.map (Except.ok : β → Except ε β)) :=
          List.map_injective_iff.mpr fun _ _ => Except.ok.inj
        cases bs <;> simp [bind, Except.bind, pure, Except.pure, ha, hcs, hinj.eq_iff]

theorem exists_ok_of_mapM_eq_ok {as : List α} {bs : List β} (h : as.mapM f = .ok bs) :
    ∀ a ∈ as, ∃ b, f a = .ok b := by
  intro a ha
  have hmem : f a ∈ bs.map Except.ok := mapM_eq_ok.mp h ▸ List.mem_map_of_mem ha
  obtain ⟨b, -, hb⟩ := List.mem_map.mp hmem
  exact ⟨b, hb.symm⟩

/-- A traversal fails with the first failure of its entries. -/
theorem mapM_eq_error {as : List α} {e : ε} :
    as.mapM f = .error e ↔
      ∃ before a after, as = before ++ a :: after ∧ (∀ b ∈ before, ∃ y, f b = .ok y) ∧
        f a = .error e := by
  constructor
  · intro h
    induction as with
    | nil => cases h
    | cons a as ih =>
      rw [List.mapM_cons] at h
      cases ha : f a with
      | error e' =>
        rw [ha] at h
        obtain rfl := Except.error.inj h
        exact ⟨[], a, as, rfl, by simp, ha⟩
      | ok b =>
        have has : as.mapM f = .error e := by
          rw [ha] at h
          cases has : as.mapM f with
          | error e' => rw [has] at h; exact h
          | ok bs => rw [has] at h; cases h
        obtain ⟨before, x, after, rfl, hbefore, herr⟩ := ih has
        exact ⟨a :: before, x, after, rfl, List.forall_mem_cons.mpr ⟨⟨b, ha⟩, hbefore⟩, herr⟩
  · rintro ⟨before, a, after, rfl, hbefore, herr⟩
    induction before with
    | nil =>
      rw [List.nil_append, List.mapM_cons, herr]
      rfl
    | cons b before ih =>
      obtain ⟨⟨y, hy⟩, hbefore⟩ := List.forall_mem_cons.mp hbefore
      rw [List.cons_append, List.mapM_cons, hy, ih hbefore]
      rfl

end traversal

/-! ## The stages on one entry -/

namespace Context

open ResolveM

variable (ctx : Context)

/-- An entry in record form. -/
def recordForm : Include → Directive
  | .path text => Directive.ofText (ctx.vars.expand text)
  | .directive d => d

/-- Whether the rules of a directive keep it. -/
def verdict (d : Directive) : Except SourceError Bool :=
  match d.rules with
  | none => .ok true
  | some rules => ctx.evaluate ctx.toSetting rules

/-- The directives that a wildcard stands for; any other directive stands for itself. -/
def matching (d : Directive) : Except SourceError (List Directive) :=
  match d.wildcard? with
  | none => .ok [d]
  | some pattern =>
    match ctx.repository.search ctx.scope pattern with
    | .ok paths => .ok (paths.map Directive.ofLocal)
    | .error e => .error e

/-- The source of a directive, which fits one kind. -/
def sourceOf (d : Directive) : Except ResolveError Source :=
  match d.classify? ctx.scope with
  | some source => .ok source
  | none => .error (.ambiguous d)

/-- What is recorded of a directive. -/
def entry (d : Directive) : Ledger.Entry := { directive := d, scope := ctx.scope }

/-- A directive, unless its rules drop it; the failure of a rule is a collaborator's. -/
def kept (d : Directive) : Except ResolveError (Option Directive) :=
  match ctx.verdict d with
  | .ok true => .ok (some d)
  | .ok false => .ok none
  | .error e => .error (.collaborator e)

/-- The directives that a wildcard stands for; the failure of a search is a collaborator's. -/
def searched (d : Directive) : Except ResolveError (List Directive) :=
  (ctx.matching d).mapError .collaborator

theorem settles_normalize (i : Include) : Settles (ctx.normalize i) (.ok (ctx.recordForm i)) := by
  unfold normalize
  refine Follows.timed ?_ _ _
  cases i with
  | path text => exact Follows.timed (settles_pure _) _ _
  | directive d => exact settles_pure d

theorem settles_keep (d : Directive) : Settles (ctx.keep d) (ctx.kept d) := by
  unfold keep kept verdict
  refine Follows.timed ?_ _ _
  cases d.rules with
  | none => exact settles_pure _
  | some rules =>
    cases h : ctx.evaluate ctx.toSetting rules with
    | error e =>
      simp only [h]
      exact settles_throw _
    | ok b =>
      simp only [h]
      cases b with
      | true => exact settles_pure _
      | false => exact (settles_note _).bind fun _ => settles_pure _

theorem settles_expandWildcard (d : Directive) :
    Settles (ctx.expandWildcard d) (ctx.searched d) := by
  unfold expandWildcard searched matching
  refine Follows.timed ?_ _ _
  cases d.wildcard? with
  | none => exact settles_pure _
  | some pattern =>
    cases h : ctx.repository.search ctx.scope pattern with
    | error e =>
      simp only [h]
      exact settles_throw _
    | ok paths =>
      simp only [h]
      exact (settles_note _).bind fun _ => settles_pure _

theorem settles_interpolate (d : Directive) :
    Settles (ctx.interpolate d) (.ok (d.interpolate ctx.vars)) :=
  Follows.timed (settles_pure _) _ _

theorem settles_select (d : Directive) : Settles (ctx.select d) (ctx.sourceOf d) := by
  unfold select sourceOf
  refine Follows.timed ?_ _ _
  cases d.classify? ctx.scope with
  | none => exact settles_throw _
  | some source => exact settles_pure source

/-- Recording is the only stage that changes the ledger. -/
theorem follows_record (d : Directive) :
    Follows (ctx.record d) fun l => l.recordAll [ctx.entry d] := by
  intro s
  have hrun := runOn_record ctx d s
  cases h : s.ledger.record (ctx.entry d) with
  | ok l =>
    rw [show s.ledger.record { directive := d, scope := ctx.scope } = .ok l from h] at hrun
    dsimp only
    rw [hrun, Ledger.recordAll_cons_of_ok h]
    exact ⟨rfl, rfl⟩
  | error e =>
    rw [show s.ledger.record { directive := d, scope := ctx.scope } = .error e from h] at hrun
    dsimp only
    rw [hrun, Ledger.recordAll_cons_of_error h]
    exact ⟨rfl, entered_ledger ctx .verify s⟩

/-! ## The stages on a list -/

theorem follows_forM_record (ds : List Directive) :
    Follows (ds.forM ctx.record) fun l => l.recordAll (ds.map ctx.entry) := by
  induction ds with
  | nil => exact settles_pure ()
  | cons d ds ih =>
    intro s
    change (runOn (ctx.record d >>= fun _ => ds.forM ctx.record) s).1 = _ ∧ _
    obtain ⟨hout, hledger⟩ := Follows.bind (ctx.follows_record d) (fun _ => ih) s
    refine ⟨hout.trans ?_, hledger.trans ?_⟩ <;>
    · unfold andThen
      cases h : s.ledger.record (ctx.entry d) with
      | ok l => simp only [List.map_cons, Ledger.recordAll_cons_of_ok h, Ledger.recordAll_nil]
      | error e => simp only [List.map_cons, Ledger.recordAll_cons_of_error h]

/-- The includes in record form. -/
def recordForms (includes : List Include) : List Directive := includes.map ctx.recordForm

/-- What directives stand for: wildcards looked up, variables put in. -/
def locate (ds : List Directive) : Except ResolveError (List Directive) := do
  let found ← ds.mapM ctx.searched
  return found.flatten.map (Directive.interpolate ctx.vars)

/-- What the stages before the recording make of a list of includes. -/
def plan (includes : List Include) : Except ResolveError (List Directive) := do
  let active ← (ctx.recordForms includes).mapM ctx.kept
  ctx.locate ((active.filterMap id).flatMap Directive.fanOut)

theorem settles_directives (includes : List Include) :
    Settles (ctx.directives includes) (ctx.plan includes) := by
  have hnormal := Settles.mapM ctx.settles_normalize includes
  rw [mapM_of_forall_ok fun _ _ => rfl] at hnormal
  refine hnormal.bind (h := fun normal => do
    let active ← normal.mapM ctx.kept
    ctx.locate ((active.filterMap id).flatMap Directive.fanOut)) fun normal => ?_
  refine (Settles.mapM ctx.settles_keep normal).bind fun active => ?_
  refine (Settles.mapM ctx.settles_expandWildcard _).bind fun found => ?_
  have hlast := Settles.mapM ctx.settles_interpolate found.flatten
  rwa [mapM_of_forall_ok fun _ _ => rfl] at hlast

/-- A resolution as a function of the ledger: the stages before the recording, the recording, and
the classification of what has been recorded. -/
def resolution (includes : List Include) (l : Ledger) :
    Except ResolveError (List Source) × Ledger :=
  match ctx.plan includes with
  | .error e => (.error e, l)
  | .ok ds =>
    match l.recordAll (ds.map ctx.entry) with
    | (.error e, l') => (.error e, l')
    | (.ok (), l') => (ds.mapM ctx.sourceOf, l')

theorem resolution_eq_andThen (includes : List Include) (l : Ledger) :
    ctx.resolution includes l =
      andThen (fun l => (ctx.plan includes, l)) (fun ds =>
        andThen (fun l => l.recordAll (ds.map ctx.entry)) fun _ l =>
          (ds.mapM ctx.sourceOf, l)) l := by
  unfold resolution andThen
  cases ctx.plan includes with
  | error e => rfl
  | ok ds =>
    dsimp only
    rcases l.recordAll (ds.map ctx.entry) with ⟨e | ⟨⟩, l'⟩ <;> rfl

/-- **A resolution depends on the ledger alone.** The journal and the observation of the stages
have no part in what is returned or recorded. -/
theorem follows_resolve (includes : List Include) :
    Follows (ctx.resolve includes) (ctx.resolution includes) := by
  intro s
  unfold resolve
  split
  · next hempty =>
    obtain rfl := List.isEmpty_iff.mp hempty
    exact ⟨rfl, rfl⟩
  · refine Follows.timed ?_ ctx .process s
    have hstages := Follows.bind (settles_note (.resolving ctx.scope includes.length)) fun _ =>
      Follows.bind (ctx.settles_directives includes) fun ds =>
        Follows.bind (ctx.follows_forM_record ds) fun _ => Settles.mapM ctx.settles_select ds
    intro s
    rw [resolution_eq_andThen]
    exact hstages s

variable {ctx} {includes : List Include}

theorem resolution_of_plan_error {e : ResolveError} (hplan : ctx.plan includes = .error e)
    (l : Ledger) : ctx.resolution includes l = (.error e, l) := by
  simp only [resolution, hplan]

/-- When the ledger refuses something that the stages before the recording find, this decides. -/
theorem resolution_of_recordAll_error {ds : List Directive} {l l' : Ledger} {e : ResolveError}
    (hplan : ctx.plan includes = .ok ds) (hrec : l.recordAll (ds.map ctx.entry) = (.error e, l')) :
    ctx.resolution includes l = (.error e, l') := by
  simp only [resolution, hplan, hrec]

/-- When the ledger admits all that the stages before the recording find, its classification
decides. -/
theorem resolution_of_admits {ds : List Directive} {l : Ledger}
    (hplan : ctx.plan includes = .ok ds) (hadm : l.Admits (ds.map ctx.entry)) :
    ctx.resolution includes l = (ds.mapM ctx.sourceOf, l.append (ds.map ctx.entry)) := by
  simp only [resolution, hplan, Ledger.recordAll_eq_ok.mpr ⟨hadm, rfl⟩]

/-! ## What a resolution records -/

theorem sourceOf_origin {d : Directive} {source : Source} (h : ctx.sourceOf d = .ok source) :
    source.origin = { directive := d, scope := ctx.scope } := by
  unfold sourceOf at h
  split at h
  · next hclass =>
    obtain rfl := Except.ok.inj h
    exact Directive.classify?_origin hclass
  · cases h

/-- The sources of recorded directives come from just these, in the scope of the context. -/
theorem mapM_sourceOf_origin {ds : List Directive} {sources : List Source}
    (h : ds.mapM ctx.sourceOf = .ok sources) :
    sources.map Source.origin = ds.map fun d => { directive := d, scope := ctx.scope } := by
  have hmap := mapM_eq_ok.mp h
  clear h
  induction ds generalizing sources with
  | nil =>
    obtain rfl := List.map_eq_nil_iff.mp hmap.symm
    rfl
  | cons d ds ih =>
    obtain ⟨source, rest, rfl, hsource, hrest⟩ := List.map_eq_cons_iff.mp hmap.symm
    rw [List.map_cons, List.map_cons, sourceOf_origin hsource.symm, ih hrest.symm]

end Context

/-- What is recorded of the include that a source comes from. -/
def Origin.entry (o : Origin) : Ledger.Entry := { directive := o.directive, scope := o.scope }

/-- What is recorded of the include that a source comes from. -/
def Source.entry (source : Source) : Ledger.Entry := source.origin.entry

namespace Context

open ResolveM

variable (ctx : Context) (includes : List Include)

/-- **What a resolution records.** A resolution makes the ledger grow, whether it succeeds or
fails; when it succeeds, by one entry for each source, in their order and in its scope. -/
theorem exists_grows_resolution (l : Ledger) :
    ∃ added, l.Grows (ctx.resolution includes l).2 added ∧
      ∀ sources, (ctx.resolution includes l).1 = .ok sources →
        added = sources.map Source.entry ∧ ∀ source ∈ sources, source.origin.scope = ctx.scope := by
  unfold resolution
  cases ctx.plan includes with
  | error e => exact ⟨[], Ledger.Grows.refl l, fun _ h => by cases h⟩
  | ok ds =>
    obtain ⟨added, hgrows, hall⟩ := l.exists_grows_recordAll (ds.map ctx.entry)
    dsimp only
    rcases hrec : l.recordAll (ds.map ctx.entry) with ⟨e | ⟨⟩, l'⟩
    · rw [hrec] at hgrows
      exact ⟨added, hgrows, fun _ h => by cases h⟩
    · rw [hrec] at hgrows hall
      refine ⟨added, hgrows, fun sources hsources => ?_⟩
      have horigin := mapM_sourceOf_origin hsources
      constructor
      · have hentry : sources.map Source.entry = (sources.map Source.origin).map Origin.entry := by
          rw [List.map_map]
          rfl
        rw [hall rfl, hentry, horigin, List.map_map]
        rfl
      · intro source hmem
        have hmem' : source.origin ∈ sources.map Source.origin := List.mem_map_of_mem hmem
        rw [horigin] at hmem'
        obtain ⟨d, -, hd⟩ := List.mem_map.mp hmem'
        rw [← hd]

theorem exists_grows_resolve (s : Session) :
    ∃ added, s.ledger.Grows (runOn (ctx.resolve includes) s).2.ledger added := by
  obtain ⟨added, hgrows, -⟩ := ctx.exists_grows_resolution includes s.ledger
  rw [← (ctx.follows_resolve includes s).2] at hgrows
  exact ⟨added, hgrows⟩

variable {ctx includes}

theorem grows_resolve {s s' : Session} {sources : List Source}
    (h : runOn (ctx.resolve includes) s = (.ok sources, s')) :
    s.ledger.Grows s'.ledger (sources.map Source.entry) ∧
      ∀ source ∈ sources, source.origin.scope = ctx.scope := by
  obtain ⟨hout, hledger⟩ := ctx.follows_resolve includes s
  rw [h] at hout hledger
  obtain ⟨added, hgrows, hsources⟩ := ctx.exists_grows_resolution includes s.ledger
  obtain ⟨rfl, hscope⟩ := hsources sources hout.symm
  rw [← hledger] at hgrows
  exact ⟨hgrows, hscope⟩

end Context

end IncludeTree
