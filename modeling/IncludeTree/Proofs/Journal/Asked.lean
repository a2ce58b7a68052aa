import IncludeTree.Expansion

/-!
# The files that are asked for

`Journal.asked` lists the files whose content was asked for, in order, each with the depth at which
it was found. A resolution asks for none (`asksNothing_resolve`): only the draining
of a work list does.
-/

namespace IncludeTree

/-- The file that an event asks for, if it does. -/
def Event.asked? : Event → Option Pending
  | .fetching source depth => some { source, depth }
  | _ => none

namespace Journal

/-- The files whose content was asked for, in order. -/
def asked (j : Journal) : List Pending := j.inOrder.filterMap Event.asked?

theorem asked_cons (event : Event) (j : Journal) :
    asked (event :: j) = j.asked ++ event.asked?.toList := by
  unfold asked inOrder
  rw [List.reverse_cons, List.filterMap_append]
  cases h : event.asked? <;> simp [h]

end Journal

namespace Session

/-- The files whose content was asked for in a session. -/
def asked (s : Session) : List Pending := s.journal.asked

@[simp] theorem asked_add (s : Session) (event : Event) :
    (s.add event).asked = s.asked ++ event.asked?.toList := Journal.asked_cons event s.journal

end Session

namespace ResolveM

variable {α β : Type}

/-- A computation that asks for no file. -/
def AsksNothing (x : ResolveM α) : Prop := ∀ s, (runOn x s).2.asked = s.asked

theorem asksNothing_pure (a : α) : AsksNothing (pure a : ResolveM α) := fun _ => rfl

theorem asksNothing_throw (e : ResolveError) : AsksNothing (throw e : ResolveM α) := fun _ => rfl

theorem asksNothing_note {event : Event} (h : event.asked? = none) : AsksNothing (note event) := by
  intro s
  rw [runOn_note, Session.asked_add, h]
  exact List.append_nil _

theorem AsksNothing.bind {x : ResolveM α} {f : α → ResolveM β} (hx : AsksNothing x)
    (hf : ∀ a, AsksNothing (f a)) : AsksNothing (x >>= f) := by
  intro s
  have hxs := hx s
  rw [runOn_bind]
  split
  · next a s' h =>
    rw [h] at hxs
    rw [hf a s', hxs]
  · next e s' h =>
    rw [h] at hxs
    exact hxs

theorem AsksNothing.mapM {f : α → ResolveM β} (hf : ∀ a, AsksNothing (f a)) (as : List α) :
    AsksNothing (as.mapM f) := by
  induction as with
  | nil => exact asksNothing_pure []
  | cons a as ih =>
    rw [List.mapM_cons]
    exact (hf a).bind fun b => ih.bind fun bs => asksNothing_pure (b :: bs)

theorem AsksNothing.forM {f : α → ResolveM Unit} (hf : ∀ a, AsksNothing (f a)) (as : List α) :
    AsksNothing (as.forM f) := by
  induction as with
  | nil => exact asksNothing_pure ()
  | cons a as ih => exact (hf a).bind fun _ => ih

theorem AsksNothing.timed {x : ResolveM α} (hx : AsksNothing x) (ctx : Context) (stage : Stage) :
    AsksNothing (ctx.timed stage x) := by
  unfold Context.timed
  split
  · exact (asksNothing_note rfl).bind fun _ => hx
  · exact hx

end ResolveM

namespace Context

open ResolveM

variable (ctx : Context)

theorem asksNothing_normalize (i : Include) : AsksNothing (ctx.normalize i) := by
  unfold normalize
  refine AsksNothing.timed ?_ _ _
  cases i with
  | path text => exact (asksNothing_pure _).timed _ _
  | directive d => exact asksNothing_pure d

theorem asksNothing_keep (d : Directive) : AsksNothing (ctx.keep d) := by
  unfold keep
  refine AsksNothing.timed ?_ _ _
  split
  · exact asksNothing_pure _
  · split
    · exact asksNothing_throw _
    · exact asksNothing_pure _
    · exact (asksNothing_note rfl).bind fun _ => asksNothing_pure _

theorem asksNothing_expandWildcard (d : Directive) : AsksNothing (ctx.expandWildcard d) := by
  unfold expandWildcard
  refine AsksNothing.timed ?_ _ _
  split
  · exact asksNothing_pure _
  · split
    · exact asksNothing_throw _
    · refine (asksNothing_note ?_).bind fun _ => asksNothing_pure _
      split <;> rfl

theorem asksNothing_record (d : Directive) : AsksNothing (ctx.record d) := by
  intro s
  have hentered : (ctx.entered .verify s).asked = s.asked := by
    unfold entered
    split
    · rw [Session.asked_add]
      exact List.append_nil _
    · rfl
  rw [runOn_record]
  split
  · exact hentered
  · exact hentered

theorem asksNothing_select (d : Directive) : AsksNothing (ctx.select d) := by
  unfold select
  refine AsksNothing.timed ?_ _ _
  split
  · exact asksNothing_pure _
  · exact asksNothing_throw _

theorem asksNothing_directives (includes : List Include) :
    AsksNothing (ctx.directives includes) := by
  unfold directives
  exact (AsksNothing.mapM ctx.asksNothing_normalize _).bind fun _ =>
    (AsksNothing.mapM ctx.asksNothing_keep _).bind fun _ =>
      (AsksNothing.mapM ctx.asksNothing_expandWildcard _).bind fun _ =>
        AsksNothing.mapM (fun _ => (asksNothing_pure _).timed _ _) _

/-- A resolution asks for no file. -/
theorem asksNothing_resolve (includes : List Include) : AsksNothing (ctx.resolve includes) := by
  unfold resolve
  split
  · exact asksNothing_pure []
  · refine AsksNothing.timed ?_ _ _
    exact (asksNothing_note rfl).bind fun _ => (ctx.asksNothing_directives includes).bind fun ds =>
      (AsksNothing.forM ctx.asksNothing_record ds).bind fun _ =>
        AsksNothing.mapM ctx.asksNothing_select ds

/-- Reading the includes of a fetched file and resolving them asks for no file. -/
theorem asksNothing_nestedSources (p : Pending) (fetched : Fetched) :
    AsksNothing (ctx.nestedSources p fetched) := by
  unfold nestedSources
  split
  · exact asksNothing_throw _
  · exact (asksNothing_note rfl).bind fun _ => (ctx.nested fetched.scope).asksNothing_resolve _

end Context

end IncludeTree
