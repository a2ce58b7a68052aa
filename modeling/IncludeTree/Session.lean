import IncludeTree.Journal
import IncludeTree.Ledger
import IncludeTree.RuleEvaluation

/-!
# Sessions

A `Session` is what the resolutions of one expansion share: the ledger and the journal. `ResolveM`
is a computation on it that may fail; what it has recorded until then stays. A `Context` is what a
resolution is given and leaves alone. `Context.timed` enters a stage, `note` writes to the journal.

`Quiet` says of a computation that it leaves the ledger alone.
-/

namespace IncludeTree

/-- What the resolutions of one expansion share. -/
structure Session where
  /-- What has been included so far. -/
  ledger : Ledger := {}
  /-- What has happened so far. -/
  journal : Journal := []
deriving Inhabited

/-- A session with one more event. -/
def Session.add (s : Session) (event : Event) : Session :=
  { s with journal := event :: s.journal }

@[simp] theorem Session.add_ledger (s : Session) (event : Event) :
    (s.add event).ledger = s.ledger := rfl

/-- A computation on a session that may fail. -/
abbrev ResolveM := ExceptT ResolveError (StateM Session)

namespace ResolveM

/-- The outcome of a computation, and the session that it leaves. -/
def runOn {α : Type} (x : ResolveM α) (s : Session) : Except ResolveError α × Session :=
  (ExceptT.run x).run s

variable {α β : Type}

@[simp] theorem runOn_pure (a : α) (s : Session) :
    runOn (pure a : ResolveM α) s = (.ok a, s) := rfl

@[simp] theorem runOn_throw (e : ResolveError) (s : Session) :
    runOn (throw e : ResolveM α) s = (.error e, s) := rfl

theorem runOn_bind (x : ResolveM α) (f : α → ResolveM β) (s : Session) :
    runOn (x >>= f) s =
      match runOn x s with
      | (.ok a, s') => runOn (f a) s'
      | (.error e, s') => (.error e, s') := by
  simp only [runOn, ExceptT.run_bind, StateT.run_bind]
  rcases h : (ExceptT.run x).run s with ⟨_ | a, s'⟩ <;> rfl

/-- A computation that leaves the ledger alone. -/
def Quiet (x : ResolveM α) : Prop := ∀ s, (runOn x s).2.ledger = s.ledger

theorem quiet_pure (a : α) : Quiet (pure a : ResolveM α) := fun _ => rfl

theorem quiet_throw (e : ResolveError) : Quiet (throw e : ResolveM α) := fun _ => rfl

theorem Quiet.bind {x : ResolveM α} {f : α → ResolveM β} (hx : Quiet x) (hf : ∀ a, Quiet (f a)) :
    Quiet (x >>= f) := by
  intro s
  have := hx s
  rw [runOn_bind]
  split
  · next a s' h => rw [hf a s', ← this, h]
  · next e s' h => rw [← this, h]

theorem Quiet.mapM {f : α → ResolveM β} (hf : ∀ a, Quiet (f a)) (as : List α) :
    Quiet (as.mapM f) := by
  induction as with
  | nil => exact quiet_pure []
  | cons a as ih =>
    rw [List.mapM_cons]
    exact (hf a).bind fun b => ih.bind fun bs => quiet_pure (b :: bs)

theorem length_mapM {f : α → ResolveM β} {as : List α} {bs : List β} {s s' : Session}
    (h : runOn (as.mapM f) s = (.ok bs, s')) : bs.length = as.length := by
  induction as generalizing s s' bs with
  | nil =>
    obtain ⟨h₁, -⟩ := Prod.mk.inj h
    obtain rfl := Except.ok.inj h₁
    rfl
  | cons a as ih =>
    rw [List.mapM_cons, runOn_bind] at h
    split at h
    · rw [runOn_bind] at h
      split at h
      · next hbs =>
        obtain ⟨h₁, -⟩ := Prod.mk.inj h
        obtain rfl := Except.ok.inj h₁
        simp [ih hbs]
      · simp at h
    · simp at h

end ResolveM

/-- Writes an event to the journal. -/
def note (event : Event) : ResolveM Unit :=
  modify fun s => s.add event

/-- What a resolution is given. -/
structure Context extends Setting where
  /-- What decides on a list of rules. -/
  evaluate : Setting → List Rule → Except SourceError Bool := Rule.evaluate
  /-- Whether the stages are observed. -/
  instrumented : Bool := false

namespace Context

/-- The context in which the includes of a file of another scope are resolved. -/
def nested (ctx : Context) (scope : Scope) : Context := { ctx with scope }

/-- A computation as a stage that is observed. -/
def timed {α : Type} (ctx : Context) (stage : Stage) (x : ResolveM α) : ResolveM α :=
  if ctx.instrumented then note (.started stage) >>= fun _ => x else x

/-- The session as it is when a stage has been entered. -/
def entered (ctx : Context) (stage : Stage) (s : Session) : Session :=
  if ctx.instrumented then s.add (.started stage) else s

@[simp] theorem entered_ledger (ctx : Context) (stage : Stage) (s : Session) :
    (ctx.entered stage s).ledger = s.ledger := by
  unfold entered; split <;> rfl

end Context

namespace ResolveM

theorem runOn_note (event : Event) (s : Session) :
    runOn (note event) s = (.ok (), s.add event) := rfl

theorem quiet_note (event : Event) : Quiet (note event) := fun _ => rfl

theorem runOn_timed {α : Type} (ctx : Context) (stage : Stage) (x : ResolveM α) (s : Session) :
    runOn (ctx.timed stage x) s = runOn x (ctx.entered stage s) := by
  unfold Context.timed Context.entered
  split
  · rw [runOn_bind, runOn_note]
  · rfl

theorem Quiet.timed {α : Type} {x : ResolveM α} (hx : Quiet x) (ctx : Context) (stage : Stage) :
    Quiet (ctx.timed stage x) := by
  intro s
  rw [runOn_timed, hx, Context.entered_ledger]

end ResolveM

end IncludeTree
