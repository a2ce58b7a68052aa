import IncludeTree.Proofs.Resolution.Failure

/-!
# The stages that a resolution enters

`Session.stages` lists the stages that have been entered in a session, in order, and
`Journal.count_eq_count_stages` says that it is what is counted. A stage is entered for one entry of
a list after the other and no more once one fails, so which stages a resolution enters depends on
how it ends. `ResolveM.Passes ctx x l r stages` says both of a computation: in every session with
the ledger `l` it comes to `r` and enters `stages`, if they are observed at all. It goes through
sequences (`Passes.bind_ok`, `Passes.bind_error`), lists (`Settles.passes_mapM`,
`Settles.passes_mapM_error`) and the recording (`passes_forM_record`, `passes_forM_record_error`).
-/

namespace IncludeTree

/-- The stage that an event enters, if it does. -/
def Event.stage? : Event → Option Stage
  | .started stage => some stage
  | _ => none

namespace Journal

/-- The stages that have been entered, in order. -/
def stages (j : Journal) : List Stage := j.inOrder.filterMap Event.stage?

theorem stages_cons (event : Event) (j : Journal) :
    stages (event :: j) = j.stages ++ event.stage?.toList := by
  unfold stages inOrder
  rw [List.reverse_cons, List.filterMap_append]
  cases h : event.stage? <;> simp [h]

theorem count_eq_count_stages (j : Journal) (stage : Stage) :
    j.count stage = j.stages.count stage := by
  induction j with
  | nil => rfl
  | cons event j ih =>
    have hcount : count (event :: j) stage = count j stage + event.stage?.toList.count stage := by
      unfold count
      rw [List.count_cons]
      cases event <;> simp [Event.stage?, List.count_singleton]
    rw [hcount, ih, stages_cons, List.count_append]

end Journal

namespace Session

/-- The stages that have been entered in a session, in order. -/
def stages (s : Session) : List Stage := s.journal.stages

@[simp] theorem stages_add (s : Session) (event : Event) :
    (s.add event).stages = s.stages ++ event.stage?.toList := Journal.stages_cons event s.journal

end Session

/-- The stages of a context that are observed: all or none. -/
def Context.observed (ctx : Context) (stages : List Stage) : List Stage :=
  if ctx.instrumented then stages else []

@[simp] theorem Context.observed_nil (ctx : Context) : ctx.observed [] = [] := by
  unfold observed; split <;> rfl

@[simp] theorem Context.observed_append (ctx : Context) (stages stages' : List Stage) :
    ctx.observed (stages ++ stages') = ctx.observed stages ++ ctx.observed stages' := by
  unfold observed; split <;> rfl

theorem Context.stages_entered (ctx : Context) (stage : Stage) (s : Session) :
    (ctx.entered stage s).stages = s.stages ++ ctx.observed [stage] := by
  unfold entered observed
  split
  · exact Session.stages_add s _
  · exact (List.append_nil _).symm

/-! ## Computations that enter stages -/

namespace ResolveM

variable {α β : Type} {ctx : Context} {x : ResolveM α} {f : α → ResolveM β}
  {stages stages' : List Stage}

/-- A computation that enters the same stages in every session, however it ends. -/
def Enters (ctx : Context) (x : ResolveM α) (stages : List Stage) : Prop :=
  ∀ s, (runOn x s).2.stages = s.stages ++ ctx.observed stages

theorem enters_pure (a : α) : Enters ctx (pure a : ResolveM α) [] := fun s => by simp

theorem enters_throw (e : ResolveError) : Enters ctx (throw e : ResolveM α) [] := fun s => by simp

theorem enters_note {event : Event} (h : event.stage? = none) : Enters ctx (note event) [] := by
  intro s
  rw [runOn_note, Session.stages_add, h, Context.observed_nil]
  rfl

theorem enters_note_bind {event : Event} (h : event.stage? = none) (hx : Enters ctx x stages) :
    Enters ctx (note event >>= fun _ => x) stages := by
  intro s
  have hnote : (s.add event).stages = s.stages := by simp [h]
  rw [runOn_bind, runOn_note]
  exact (hx _).trans (by rw [hnote])

theorem Enters.timed (hx : Enters ctx x stages) (stage : Stage) :
    Enters ctx (ctx.timed stage x) (stage :: stages) := by
  intro s
  rw [runOn_timed, hx, Context.stages_entered, List.append_assoc, ← Context.observed_append]
  rfl

/-- What a computation comes to when it finds a ledger, and which stages it enters then. -/
def Passes (ctx : Context) (x : ResolveM α) (l : Ledger) (r : Except ResolveError α × Ledger)
    (stages : List Stage) : Prop :=
  ∀ s, s.ledger = l → (runOn x s).1 = r.1 ∧ (runOn x s).2.ledger = r.2 ∧
    (runOn x s).2.stages = s.stages ++ ctx.observed stages

variable {l l₁ : Ledger} {r : Except ResolveError β × Ledger} {a : α} {e : ResolveError}

theorem Follows.passes {g : Ledger → Except ResolveError α × Ledger} (h : Follows x g)
    (hstages : Enters ctx x stages) (l : Ledger) : Passes ctx x l (g l) stages := by
  rintro s rfl
  exact ⟨(h s).1, (h s).2, hstages s⟩

theorem Settles.passes {o : Except ResolveError α} (h : Settles x o)
    (hstages : Enters ctx x stages) (l : Ledger) : Passes ctx x l (o, l) stages :=
  Follows.passes h hstages l

theorem Passes.bind_ok (hx : Passes ctx x l (.ok a, l₁) stages)
    (hf : Passes ctx (f a) l₁ r stages') : Passes ctx (x >>= f) l r (stages ++ stages') := by
  intro s hs
  obtain ⟨hout, hledger, hstages⟩ := hx s hs
  rw [runOn_bind, Context.observed_append, ← List.append_assoc, ← hstages]
  rcases hrun : runOn x s with ⟨o, s'⟩
  rw [hrun] at hout hledger
  obtain rfl : o = .ok a := hout
  exact hf s' hledger

theorem Passes.bind_error (hx : Passes ctx x l (.error e, l₁) stages) :
    Passes ctx (x >>= f) l (.error e, l₁) stages := by
  intro s hs
  obtain ⟨hout, hledger, hstages⟩ := hx s hs
  rw [runOn_bind, ← hstages]
  rcases hrun : runOn x s with ⟨o, s'⟩
  rw [hrun] at hout hledger
  obtain rfl : o = .error e := hout
  exact ⟨rfl, hledger, rfl⟩

theorem Passes.timed {r : Except ResolveError α × Ledger} (hx : Passes ctx x l r stages)
    (stage : Stage) : Passes ctx (ctx.timed stage x) l r (stage :: stages) := by
  intro s hs
  obtain ⟨hout, hledger, hstages⟩ := hx (ctx.entered stage s) (by rw [Context.entered_ledger, hs])
  rw [runOn_timed]
  refine ⟨hout, hledger, ?_⟩
  rw [hstages, Context.stages_entered, List.append_assoc, ← Context.observed_append]
  rfl

theorem passes_pure (a : α) (l : Ledger) : Passes ctx (pure a : ResolveM α) l (.ok a, l) [] :=
  (settles_pure a).passes (enters_pure a) l

section lists

variable {g : α → Except ResolveError β} {enter : α → List Stage} {as before after : List α}

/-- A list whose entries all succeed enters the stages of all of them. -/
theorem Settles.passes_mapM (hf : ∀ a, Settles (f a) (g a))
    (henter : ∀ a, Enters ctx (f a) (enter a)) (h : ∀ a ∈ as, ∃ y, g a = .ok y) (l : Ledger) :
    ∃ ys, as.mapM g = .ok ys ∧ Passes ctx (as.mapM f) l (.ok ys, l) (as.flatMap enter) := by
  induction as with
  | nil => exact ⟨[], rfl, passes_pure [] l⟩
  | cons a as ih =>
    obtain ⟨⟨y, hy⟩, has⟩ := List.forall_mem_cons.mp h
    obtain ⟨ys, hys, hrest⟩ := ih has
    refine ⟨y :: ys, by rw [List.mapM_cons, hy, hys]; rfl, ?_⟩
    have hfirst : Passes ctx (f a) l (.ok y, l) (enter a) := hy ▸ (hf a).passes (henter a) l
    have hlast : Passes ctx (as.mapM f >>= fun ys => pure (y :: ys)) l (.ok (y :: ys), l)
        (as.flatMap enter ++ []) := hrest.bind_ok (passes_pure (y :: ys) l)
    rw [List.append_nil] at hlast
    rw [List.mapM_cons]
    exact hfirst.bind_ok hlast

/-- A list enters the stages of its entries up to the first that fails. -/
theorem Settles.passes_mapM_error (hf : ∀ a, Settles (f a) (g a))
    (henter : ∀ a, Enters ctx (f a) (enter a)) (hbefore : ∀ b ∈ before, ∃ y, g b = .ok y)
    (ha : g a = .error e) (l : Ledger) :
    Passes ctx ((before ++ a :: after).mapM f) l (.error e, l)
      ((before ++ [a]).flatMap enter) := by
  induction before with
  | nil =>
    have hfirst : Passes ctx (f a) l (.error e, l) (enter a) := ha ▸ (hf a).passes (henter a) l
    rw [List.nil_append, List.mapM_cons, List.nil_append, List.flatMap_singleton]
    exact hfirst.bind_error
  | cons b before ih =>
    obtain ⟨⟨y, hy⟩, hrest⟩ := List.forall_mem_cons.mp hbefore
    have hfirst : Passes ctx (f b) l (.ok y, l) (enter b) := hy ▸ (hf b).passes (henter b) l
    rw [List.cons_append, List.mapM_cons]
    exact hfirst.bind_ok (ih hrest).bind_error

end lists

end ResolveM

/-! ## The stages on one entry -/

/-- The stages in which an include is brought into record form. -/
def Include.stages : Include → List Stage
  | .path _ => [.normalize, .interpolate]
  | .directive _ => [.normalize]

namespace Context

open ResolveM

variable (ctx : Context)

theorem enters_normalize (i : Include) : Enters ctx (ctx.normalize i) i.stages := by
  cases i with
  | path text => exact Enters.timed (Enters.timed (enters_pure _) _) _
  | directive d => exact Enters.timed (enters_pure d) _

theorem enters_keep (d : Directive) : Enters ctx (ctx.keep d) [.rules] := by
  unfold keep
  refine Enters.timed ?_ _
  split
  · exact enters_pure _
  · split
    · exact enters_throw _
    · exact enters_pure _
    · exact enters_note_bind rfl (enters_pure _)

theorem enters_expandWildcard (d : Directive) :
    Enters ctx (ctx.expandWildcard d) [.wildcards] := by
  unfold expandWildcard
  refine Enters.timed ?_ _
  split
  · exact enters_pure _
  · split
    · exact enters_throw _
    · refine enters_note_bind ?_ (enters_pure _)
      split <;> rfl

theorem enters_interpolate (d : Directive) : Enters ctx (ctx.interpolate d) [.interpolate] :=
  Enters.timed (enters_pure _) _

theorem enters_select (d : Directive) : Enters ctx (ctx.select d) [.select] := by
  unfold select
  refine Enters.timed ?_ _
  split
  · exact enters_pure _
  · exact enters_throw _

theorem enters_record (d : Directive) : Enters ctx (ctx.record d) [.verify] := by
  intro s
  rw [runOn_record, ← stages_entered]
  split <;> rfl

/-! ## The stages on a list -/

variable {ctx} {ds before after : List Directive} {d : Directive} {l : Ledger}

/-- Entries that the ledger admits are all recorded. -/
theorem passes_forM_record (h : l.Admits (ds.map ctx.entry)) :
    Passes ctx (ds.forM ctx.record) l (.ok (), l.append (ds.map ctx.entry))
      (ds.flatMap fun _ => [.verify]) := by
  induction ds generalizing l with
  | nil =>
    rw [List.map_nil, Ledger.append_nil]
    exact passes_pure () l
  | cons d ds ih =>
    obtain ⟨hd, hds⟩ := (Ledger.admits_append l [ctx.entry d] (ds.map ctx.entry)).mp h
    have hrecord := Follows.passes (ctx.follows_record d) (ctx.enters_record d) l
    rw [Ledger.recordAll_eq_ok.mpr ⟨hd, rfl⟩] at hrecord
    have hrest := ih hds
    rw [Ledger.append_append] at hrest
    exact hrecord.bind_ok hrest

/-- Entries are recorded up to the first that the ledger refuses. -/
theorem passes_forM_record_error {e : ResolveError} (h : l.Admits (before.map ctx.entry))
    (hd : (l.append (before.map ctx.entry)).record (ctx.entry d) = .error e) :
    Passes ctx ((before ++ d :: after).forM ctx.record) l
      (.error e, l.append (before.map ctx.entry))
      ((before ++ [d]).flatMap fun _ => [.verify]) := by
  have hrecord := Follows.passes (ctx.follows_record d) (ctx.enters_record d)
    (l.append (before.map ctx.entry))
  rw [Ledger.recordAll_cons_of_error hd] at hrecord
  have hrest : Passes ctx ((d :: after).forM ctx.record) (l.append (before.map ctx.entry))
      (.error e, l.append (before.map ctx.entry)) [.verify] := hrecord.bind_error
  have happend : (before ++ d :: after).forM ctx.record =
      before.forM ctx.record >>= fun _ => (d :: after).forM ctx.record := List.forM_append
  rw [happend, List.flatMap_append]
  exact (passes_forM_record h).bind_ok hrest

end Context

end IncludeTree
