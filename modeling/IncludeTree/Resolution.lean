import IncludeTree.Session

/-!
# Resolving includes

`Context.resolve` turns a list of includes into the sources that they stand for. Seven stages run
one after the other, each over the whole list: entries are brought into record form, rules drop
some, those that name several files of a project are split, wildcards become one directive for each
file, variables are put in, every directive is recorded in the ledger, and each is classified. The
first failure ends the resolution; what has been recorded by then stays.

`room_resolve` says that a resolution that succeeds takes one unit of room for each of its sources.
-/

namespace IncludeTree.Context

open ResolveM

/-! ## The stages -/

/-- An entry in record form; a bare string has its variables put in before it is looked at. -/
def normalize (ctx : Context) (i : Include) : ResolveM Directive :=
  ctx.timed .normalize <|
    match i with
    | .path text => ctx.timed .interpolate (pure (Directive.ofText (ctx.vars.expand text)))
    | .directive d => pure d

/-- A directive, unless its rules drop it; one without rules is kept. -/
def keep (ctx : Context) (d : Directive) : ResolveM (Option Directive) :=
  ctx.timed .rules <|
    match d.rules with
    | none => pure (some d)
    | some rules =>
      match ctx.evaluate ctx.toSetting rules with
      | .error e => throw (.collaborator e)
      | .ok true => pure (some d)
      | .ok false => do
        note (.skipped d)
        return none

/-- The directives for the files that a wildcard matches; any other directive stands for itself. -/
def expandWildcard (ctx : Context) (d : Directive) : ResolveM (List Directive) :=
  ctx.timed .wildcards <|
    match d.wildcard? with
    | none => pure [d]
    | some pattern =>
      match ctx.repository.search ctx.scope pattern with
      | .error e => throw (.collaborator e)
      | .ok paths => do
        note (if paths.isEmpty then .unmatched pattern ctx.scope
          else .expanded pattern paths.length)
        return paths.map Directive.ofLocal

/-- A directive with its variables put in. -/
def interpolate (ctx : Context) (d : Directive) : ResolveM Directive :=
  ctx.timed .interpolate (pure (d.interpolate ctx.vars))

/-- Records a directive in the ledger, under the scope of the context. -/
def record (ctx : Context) (d : Directive) : ResolveM Unit :=
  ctx.timed .verify do
    let s ← get
    match s.ledger.record { directive := d, scope := ctx.scope } with
    | .ok ledger => set { s with ledger }
    | .error e => throw e

theorem runOn_record (ctx : Context) (d : Directive) (s : Session) :
    runOn (ctx.record d) s =
      match s.ledger.record { directive := d, scope := ctx.scope } with
      | .ok ledger => (.ok (), { ctx.entered .verify s with ledger })
      | .error e => (.error e, ctx.entered .verify s) := by
  unfold record
  rw [runOn_timed]
  change runOn (match (ctx.entered .verify s).ledger.record _ with
    | .ok ledger => set { ctx.entered .verify s with ledger }
    | .error e => throw e) (ctx.entered .verify s) = _
  rw [entered_ledger]
  split <;> rfl

/-- The source of a directive. -/
def select (ctx : Context) (d : Directive) : ResolveM Source :=
  ctx.timed .select <|
    match d.classify? ctx.scope with
    | some source => pure source
    | none => throw (.ambiguous d)

/-- The directives of a list of entries, as they are recorded and classified. -/
def directives (ctx : Context) (includes : List Include) : ResolveM (List Directive) := do
  let normal ← includes.mapM ctx.normalize
  let active := (← normal.mapM ctx.keep).filterMap id
  let found := (← (active.flatMap Directive.fanOut).mapM ctx.expandWildcard).flatten
  found.mapM ctx.interpolate

/-- The sources of a list of includes, in the order of the includes. An empty list is resolved
without a trace. -/
def resolve (ctx : Context) (includes : List Include) : ResolveM (List Source) :=
  if includes.isEmpty then pure []
  else ctx.timed .process do
    note (.resolving ctx.scope includes.length)
    let directives ← ctx.directives includes
    directives.forM ctx.record
    directives.mapM ctx.select

/-! ## Room -/

theorem quiet_normalize (ctx : Context) (i : Include) : Quiet (ctx.normalize i) := by
  unfold normalize
  refine Quiet.timed ?_ _ _
  split
  · exact (quiet_pure _).timed _ _
  · exact quiet_pure _

theorem quiet_keep (ctx : Context) (d : Directive) : Quiet (ctx.keep d) := by
  unfold keep
  refine Quiet.timed ?_ _ _
  split
  · exact quiet_pure _
  · split
    · exact quiet_throw _
    · exact quiet_pure _
    · exact (quiet_note _).bind fun _ => quiet_pure _

theorem quiet_expandWildcard (ctx : Context) (d : Directive) : Quiet (ctx.expandWildcard d) := by
  unfold expandWildcard
  refine Quiet.timed ?_ _ _
  split
  · exact quiet_pure _
  · split
    · exact quiet_throw _
    · exact (quiet_note _).bind fun _ => quiet_pure _

theorem quiet_interpolate (ctx : Context) (d : Directive) : Quiet (ctx.interpolate d) :=
  (quiet_pure _).timed _ _

theorem quiet_select (ctx : Context) (d : Directive) : Quiet (ctx.select d) := by
  unfold select
  refine Quiet.timed ?_ _ _
  split
  · exact quiet_pure _
  · exact quiet_throw _

theorem quiet_directives (ctx : Context) (includes : List Include) :
    Quiet (ctx.directives includes) := by
  unfold directives
  exact (Quiet.mapM ctx.quiet_normalize _).bind fun _ =>
    (Quiet.mapM ctx.quiet_keep _).bind fun _ =>
      (Quiet.mapM ctx.quiet_expandWildcard _).bind fun _ =>
        Quiet.mapM ctx.quiet_interpolate _

/-- A directive that is recorded takes one unit of room. -/
theorem room_record {ctx : Context} {d : Directive} {s s' : Session}
    (h : runOn (ctx.record d) s = (.ok (), s')) : s'.ledger.room + 1 = s.ledger.room := by
  rw [runOn_record] at h
  split at h
  · next hl =>
    obtain ⟨-, rfl⟩ := Prod.mk.inj h
    exact Ledger.room_record hl
  · simp at h

theorem room_forM_record {ctx : Context} {ds : List Directive} {s s' : Session}
    (h : runOn (ds.forM ctx.record) s = (.ok (), s')) :
    s'.ledger.room + ds.length = s.ledger.room := by
  induction ds generalizing s with
  | nil =>
    obtain ⟨-, rfl⟩ := Prod.mk.inj h
    rfl
  | cons d ds ih =>
    change runOn (ctx.record d >>= fun _ => ds.forM ctx.record) s = _ at h
    rw [runOn_bind] at h
    split at h
    · next s₁ h₁ =>
      have := room_record h₁
      have := ih h
      simp only [List.length_cons]
      omega
    · simp at h

/-- A resolution that succeeds takes one unit of room for each of its sources. -/
theorem room_resolve {ctx : Context} {includes : List Include} {sources : List Source}
    {s s' : Session} (h : runOn (ctx.resolve includes) s = (.ok sources, s')) :
    s'.ledger.room + sources.length = s.ledger.room := by
  unfold resolve at h
  split at h
  · obtain ⟨h₁, rfl⟩ := Prod.mk.inj h
    obtain rfl := Except.ok.inj h₁
    rfl
  · rw [runOn_timed, runOn_bind, runOn_note] at h
    simp only [runOn_bind] at h
    have hds := ctx.quiet_directives includes
      ((ctx.entered .process s).add (.resolving ctx.scope includes.length))
    split at h
    · next ds s₁ h₁ =>
      rw [h₁] at hds
      split at h
      · next s₂ h₂ =>
        have hroom := room_forM_record h₂
        have hlen := length_mapM h
        have hsel := Quiet.mapM ctx.quiet_select ds s₂
        rw [h] at hsel
        simp only [Session.add_ledger, entered_ledger] at hds hsel
        rw [hsel, hlen, hroom, hds]
      · simp at h
    · simp at h

end IncludeTree.Context
