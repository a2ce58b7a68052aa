import IncludeTree.Proofs.Journal.Asked
import IncludeTree.Proofs.Resolution.Stages

/-!
# The draining of a work list

An expansion with a fetcher that is a plain function is `Context.expandWith`, and the draining of
its work list `Context.drainWith`. `Context.Drains ctx fetch pending s calls r` is the same as a
relation: draining the files `pending` in the session `s` asks for the files `calls`, one after the
other, and ends with `r`. Every work list is drained (`exists_drains`), which is what makes rule
induction on `Drains` available: each rule is one turn of the loop. `Context.Expands` is the same
for a whole expansion.

`drainWith_append` says that a work list is drained part by part.
-/

namespace IncludeTree

/-- A fetched file as part of the result. -/
def Pending.file (p : Pending) (fetched : Fetched) : Included :=
  { source := p.source, content := fetched.content, depth := p.depth }

/-- A file of the result as it waited. -/
def Included.pending (f : Included) : Pending := { source := f.source, depth := f.depth }

/-- What is recorded of the include that a waiting file comes from. -/
def Pending.entry (p : Pending) : Ledger.Entry := p.source.entry

/-- The session once the content of a waiting file has been asked for. -/
def Session.ask (s : Session) (p : Pending) : Session := s.add (.fetching p.source p.depth)

/-- Sources as files that wait at one depth. -/
def waitingAt (depth : Nat) (sources : List Source) : List Pending :=
  sources.map fun source => { source, depth }

/-- How an expansion ends: with the files or an error, and with a session. -/
abbrev Ending := Except ResolveError (List Included) × Session

/-- The ending with more files in front of its own. -/
def Ending.prepend (files : List Included) (r : Ending) : Ending := (r.1.map (files ++ ·), r.2)

@[simp] theorem Session.ask_ledger (s : Session) (p : Pending) : (s.ask p).ledger = s.ledger := rfl

@[simp] theorem Session.asked_ask (s : Session) (p : Pending) : (s.ask p).asked = s.asked ++ [p] :=
  Session.asked_add s _

@[simp] theorem map_source_waitingAt (depth : Nat) (sources : List Source) :
    (waitingAt depth sources).map Pending.source = sources := by
  unfold waitingAt
  rw [List.map_map]
  exact List.map_id' sources

@[simp] theorem map_entry_waitingAt (depth : Nat) (sources : List Source) :
    (waitingAt depth sources).map Pending.entry = sources.map Source.entry := by
  unfold waitingAt
  rw [List.map_map]
  rfl

theorem depth_of_mem_waitingAt {depth : Nat} {sources : List Source} {p : Pending}
    (h : p ∈ waitingAt depth sources) : p.depth = depth := by
  obtain ⟨source, -, rfl⟩ := List.mem_map.mp h
  rfl

namespace Ending

@[simp] theorem prepend_ok (files files' : List Included) (s : Session) :
    prepend files (.ok files', s) = (.ok (files ++ files'), s) := rfl

@[simp] theorem prepend_error (files : List Included) (e : ResolveError) (s : Session) :
    prepend files (.error e, s) = (.error e, s) := rfl

@[simp] theorem prepend_snd (files : List Included) (r : Ending) : (prepend files r).2 = r.2 := rfl

@[simp] theorem prepend_nil (r : Ending) : prepend [] r = r := by
  obtain ⟨e | files, s⟩ := r <;> rfl

@[simp] theorem prepend_prepend (files files' : List Included) (r : Ending) :
    prepend files (prepend files' r) = prepend (files ++ files') r := by
  obtain ⟨e | files'', s⟩ := r <;> simp

/-- With files before it an ending succeeds when it does by itself. -/
theorem prepend_fst_eq_ok {files all : List Included} {r : Ending} :
    (r.prepend files).1 = .ok all ↔ ∃ later, r.1 = .ok later ∧ all = files ++ later := by
  obtain ⟨e | later, s⟩ := r <;> simp [eq_comm]

/-- An ending whose outcome is known to be some files is the one with them. -/
theorem eq_of_toOption {r : Ending} {files : List Included} (h : r.1.toOption = some files) :
    r = (.ok files, r.2) := by
  obtain ⟨e | files', s⟩ := r
  · cases h
  · rw [Option.some.inj h]

end Ending

namespace Context

open ResolveM

variable (ctx : Context) (fetch : Source → Except SourceError Fetched)

/-- The draining of a work list with a fetcher that is a plain function. -/
def drainWith (pending : List Pending) (s : Session) : Ending :=
  Id.run (ctx.drain (fun source => pure (fetch source)) pending s)

/-- An expansion with a fetcher that is a plain function. -/
def expandWith (includes : List Include) (s : Session) : Ending :=
  Id.run (ctx.expand (fun source => pure (fetch source)) includes s)

/-! ## One turn of the loop -/

section turn

variable {ctx fetch} {p : Pending} {rest : List Pending} {s s' : Session}

@[simp] theorem drainWith_nil (s : Session) : ctx.drainWith fetch [] s = (.ok [], s) := by
  unfold drainWith
  rw [drain_nil]
  rfl

theorem drainWith_of_fetch_error {e : SourceError} (h : fetch p.source = .error e) :
    ctx.drainWith fetch (p :: rest) s = (.error (.fetch p.source.display e), s.ask p) := by
  unfold drainWith
  rw [drain_cons, h]
  rfl

theorem drainWith_of_nested_error {fetched : Fetched} {e : ResolveError}
    (h : fetch p.source = .ok fetched)
    (hnested : runOn (ctx.nestedSources p fetched) (s.ask p) = (.error e, s')) :
    ctx.drainWith fetch (p :: rest) s = (.error e, s') := by
  unfold Session.ask at hnested
  unfold drainWith
  rw [drain_cons, h, pure_bind]
  dsimp only
  rw [hnested]
  rfl

theorem drainWith_of_nested_ok {fetched : Fetched} {sources : List Source}
    (h : fetch p.source = .ok fetched)
    (hnested : runOn (ctx.nestedSources p fetched) (s.ask p) = (.ok sources, s')) :
    ctx.drainWith fetch (p :: rest) s =
      Ending.prepend [p.file fetched]
        (ctx.drainWith fetch (waitingAt (p.depth + 1) sources ++ rest) s') := by
  unfold Session.ask at hnested
  unfold drainWith
  rw [drain_cons, h, pure_bind]
  dsimp only
  rw [hnested]
  rfl

end turn

/-! ## The loop as a relation -/

/-- The draining of a work list as a relation: the files that wait, the session, the files that are
asked for in turn, and the ending. -/
inductive Drains (ctx : Context) (fetch : Source → Except SourceError Fetched) :
    List Pending → Session → List Pending → Ending → Prop where
  /-- No file waits. -/
  | nil (s : Session) : Drains ctx fetch [] s [] (.ok [], s)
  /-- The first file cannot be fetched. -/
  | refused {p rest s e} :
      fetch p.source = .error e →
      Drains ctx fetch (p :: rest) s [p] (.error (.fetch p.source.display e), s.ask p)
  /-- The includes of the first file cannot be read or resolved. -/
  | unread {p rest s s' fetched e} :
      fetch p.source = .ok fetched →
      runOn (ctx.nestedSources p fetched) (s.ask p) = (.error e, s') →
      Drains ctx fetch (p :: rest) s [p] (.error e, s')
  /-- The first file is fetched, and what it includes waits before the rest. -/
  | step {p rest s s' fetched sources calls r} :
      fetch p.source = .ok fetched →
      runOn (ctx.nestedSources p fetched) (s.ask p) = (.ok sources, s') →
      Drains ctx fetch (waitingAt (p.depth + 1) sources ++ rest) s' calls r →
      Drains ctx fetch (p :: rest) s (p :: calls) (r.prepend [p.file fetched])

/-- **Every work list is drained.** One turn of the loop takes a file from the list and a unit of
room from the ledger for each file that it adds. -/
theorem exists_drains (pending : List Pending) (s : Session) :
    ∃ calls, ctx.Drains fetch pending s calls (ctx.drainWith fetch pending s) := by
  match pending with
  | [] => exact ⟨[], drainWith_nil s ▸ .nil s⟩
  | p :: rest =>
    rcases hfetch : fetch p.source with e | fetched
    · exact ⟨[p], drainWith_of_fetch_error hfetch ▸ .refused hfetch⟩
    · rcases hnested : runOn (ctx.nestedSources p fetched) (s.ask p) with ⟨e | sources, s'⟩
      · exact ⟨[p], drainWith_of_nested_error hfetch hnested ▸ .unread hfetch hnested⟩
      · obtain ⟨calls, h⟩ := exists_drains (waitingAt (p.depth + 1) sources ++ rest) s'
        exact ⟨p :: calls, drainWith_of_nested_ok hfetch hnested ▸ .step hfetch hnested h⟩
termination_by s.ledger.room + pending.length
decreasing_by
  have hroom := room_nestedSources hnested
  rw [Session.ask_ledger] at hroom
  simp only [waitingAt, List.length_append, List.length_map, List.length_cons]
  omega

namespace Drains

variable {ctx fetch} {pending : List Pending} {s : Session} {calls : List Pending} {r : Ending}

/-- The relation gives the ending of the loop. -/
theorem eq_drainWith (h : ctx.Drains fetch pending s calls r) :
    ctx.drainWith fetch pending s = r := by
  induction h with
  | nil s => exact drainWith_nil s
  | refused hfetch => exact drainWith_of_fetch_error hfetch
  | unread hfetch hnested => exact drainWith_of_nested_error hfetch hnested
  | step hfetch hnested _ ih => rw [drainWith_of_nested_ok hfetch hnested, ih]

/-- The files that are asked for are those of the journal. -/
theorem asked_eq (h : ctx.Drains fetch pending s calls r) : r.2.asked = s.asked ++ calls := by
  induction h with
  | nil s => exact (List.append_nil _).symm
  | refused _ => exact Session.asked_ask _ _
  | @unread p _ s s' fetched _ _ hnested =>
    have hasked := ctx.asksNothing_nestedSources p fetched (s.ask p)
    rwa [hnested, Session.asked_ask] at hasked
  | @step p _ s s' fetched _ calls r _ hnested _ ih =>
    have hasked := ctx.asksNothing_nestedSources p fetched (s.ask p)
    rw [hnested, Session.asked_ask] at hasked
    rw [Ending.prepend_snd, ih, hasked, List.append_assoc, List.singleton_append]

/-- When all goes well, the files of the result are those that were asked for, in the same order. -/
theorem pending_eq (h : ctx.Drains fetch pending s calls r) {files : List Included}
    (hok : r.1 = .ok files) : files.map Included.pending = calls := by
  induction h generalizing files with
  | nil s =>
    obtain rfl := Except.ok.inj hok
    rfl
  | refused _ => cases hok
  | unread _ _ => cases hok
  | @step p _ _ _ fetched _ calls r _ _ _ ih =>
    obtain ⟨later, hlater, rfl⟩ := Ending.prepend_fst_eq_ok.mp hok
    rw [List.map_append, ih hlater]
    rfl

end Drains

/-! ## Work lists part by part -/

/-- **A work list is drained part by part**: a failure in the first part is the failure of the
whole, and otherwise the second part starts from the session that the first leaves. -/
theorem drainWith_append (ps qs : List Pending) (s : Session) :
    ctx.drainWith fetch (ps ++ qs) s =
      match ctx.drainWith fetch ps s with
      | (.error e, s') => (.error e, s')
      | (.ok files, s') => (ctx.drainWith fetch qs s').prepend files := by
  obtain ⟨calls, h⟩ := ctx.exists_drains fetch ps s
  generalize ctx.drainWith fetch ps s = r at h ⊢
  induction h with
  | nil s => exact (Ending.prepend_nil _).symm
  | refused hfetch => exact drainWith_of_fetch_error hfetch
  | unread hfetch hnested => exact drainWith_of_nested_error hfetch hnested
  | @step p rest s s' fetched sources calls r hfetch hnested _ ih =>
    rw [List.cons_append, drainWith_of_nested_ok hfetch hnested, ← List.append_assoc, ih]
    obtain ⟨e | files, s''⟩ := r
    · rfl
    · exact Ending.prepend_prepend [p.file fetched] files _

/-! ## The whole expansion -/

theorem expandWith_of_resolve_error {includes : List Include} {s s' : Session} {e : ResolveError}
    (h : runOn (ctx.resolve includes) s = (.error e, s')) :
    ctx.expandWith fetch includes s = (.error e, s') := by
  unfold expandWith expand
  rw [h]
  rfl

theorem expandWith_of_resolve_ok {includes : List Include} {s s' : Session}
    {sources : List Source} (h : runOn (ctx.resolve includes) s = (.ok sources, s')) :
    ctx.expandWith fetch includes s = ctx.drainWith fetch (waitingAt 0 sources) s' := by
  unfold expandWith expand
  rw [h]
  rfl

/-- An expansion as a relation: the files that are asked for in turn, and the ending. -/
inductive Expands (ctx : Context) (fetch : Source → Except SourceError Fetched)
    (includes : List Include) (s : Session) : List Pending → Ending → Prop where
  /-- The includes cannot be resolved. -/
  | unresolved {e s'} :
      runOn (ctx.resolve includes) s = (.error e, s') →
      Expands ctx fetch includes s [] (.error e, s')
  /-- The sources of the includes wait at depth zero. -/
  | resolved {sources s' calls r} :
      runOn (ctx.resolve includes) s = (.ok sources, s') →
      Drains ctx fetch (waitingAt 0 sources) s' calls r →
      Expands ctx fetch includes s calls r

theorem exists_expands (includes : List Include) (s : Session) :
    ∃ calls, ctx.Expands fetch includes s calls (ctx.expandWith fetch includes s) := by
  rcases h : runOn (ctx.resolve includes) s with ⟨e | sources, s'⟩
  · exact ⟨[], ctx.expandWith_of_resolve_error fetch h ▸ .unresolved h⟩
  · obtain ⟨calls, hdrains⟩ := ctx.exists_drains fetch (waitingAt 0 sources) s'
    exact ⟨calls, ctx.expandWith_of_resolve_ok fetch h ▸ .resolved h hdrains⟩

namespace Expands

variable {ctx fetch} {includes : List Include} {s : Session} {calls : List Pending} {r : Ending}

theorem asked_eq (h : ctx.Expands fetch includes s calls r) : r.2.asked = s.asked ++ calls := by
  have hasked := ctx.asksNothing_resolve includes s
  cases h with
  | unresolved hresolve =>
    rw [hresolve] at hasked
    rwa [List.append_nil]
  | resolved hresolve hdrains =>
    rw [hresolve] at hasked
    rw [hdrains.asked_eq, hasked]

theorem pending_eq (h : ctx.Expands fetch includes s calls r) {files : List Included}
    (hok : r.1 = .ok files) : files.map Included.pending = calls := by
  cases h with
  | unresolved _ => cases hok
  | resolved _ hdrains => exact hdrains.pending_eq hok

end Expands

end Context

end IncludeTree
