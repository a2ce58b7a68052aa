import IncludeTree.Proofs.Expansion.Growth

/-!
# An expansion ends

`Context.expandAtFuel` is the expansion written as the recursion that its result describes: the
includes are resolved, and each source is fetched and followed by the expansion of its own
includes, one level deeper. Nothing in the content of the files bounds this recursion, so it is cut
off at `fuel` levels, with `none`. `expandAtFuel_eq` says that it is never cut off when there are
more levels than the ledger has room, and then ends as the draining of a work list does.

`Context.logged fetch` keeps the sources that it is asked for (`run_expand_logged`). The main
statement, `expand_ends_within_room`, is that an expansion ends for every fetcher, asks for no
include twice, asks for none that it has not recorded, and so asks for no more files, and goes no
deeper, than the ledger has room.
-/

namespace IncludeTree.Context

open ResolveM

variable {ctx : Context} {fetch : Source → Except SourceError Fetched}

/-! ## The expansion as a recursion -/

/-- Visits files one after the other, up to the first that fails or is cut off. -/
def visitAll (visit : Pending → Session → Option Ending) :
    List Pending → Session → Option Ending
  | [], s => some (.ok [], s)
  | p :: rest, s =>
    match visit p s with
    | none => none
    | some (.error e, s') => some (.error e, s')
    | some (.ok files, s') => (visitAll visit rest s').map (Ending.prepend files)

/-- Fetches a file and reads its includes, which `next` expands in the scope that came with the
file and one level deeper. -/
def visit (fetch : Source → Except SourceError Fetched)
    (next : Scope → Nat → List Include → Session → Option Ending) (p : Pending) (s : Session) :
    Option Ending :=
  match fetch p.source with
  | .error e => some (.error (.fetch p.source.display e), s.ask p)
  | .ok fetched =>
    match Include.listOfText fetched.content with
    | .error e => some (.error e, s.ask p)
    | .ok includes =>
      (next fetched.scope (p.depth + 1) includes
        ((s.ask p).add (.included p.source p.depth includes.length))).map
          (Ending.prepend [p.file fetched])

/-- The expansion of the includes of a file, cut off below a number of levels. -/
def expandAtFuel (fetch : Source → Except SourceError Fetched) :
    Nat → Context → Nat → List Include → Session → Option Ending
  | 0, _, _, _, _ => none
  | fuel + 1, ctx, depth, includes, s =>
    match runOn (ctx.resolve includes) s with
    | (.error e, s') => some (.error e, s')
    | (.ok sources, s') =>
      visitAll (visit fetch fun scope => expandAtFuel fetch fuel (ctx.nested scope))
        (waitingAt depth sources) s'

/-- The expansion of the includes of a file, which wait at `depth`. -/
def expandFrom (ctx : Context) (fetch : Source → Except SourceError Fetched) (depth : Nat)
    (includes : List Include) (s : Session) : Ending :=
  match runOn (ctx.resolve includes) s with
  | (.error e, s') => (.error e, s')
  | (.ok sources, s') => ctx.drainWith fetch (waitingAt depth sources) s'

theorem expandFrom_zero (ctx : Context) (fetch : Source → Except SourceError Fetched)
    (includes : List Include) (s : Session) :
    ctx.expandFrom fetch 0 includes s = ctx.expandWith fetch includes s := by
  unfold expandFrom
  rcases h : runOn (ctx.resolve includes) s with ⟨e | sources, s'⟩
  · exact (ctx.expandWith_of_resolve_error fetch h).symm
  · exact (ctx.expandWith_of_resolve_ok fetch h).symm

/-- A work list is drained alike in every context that differs in the scope alone. -/
theorem Drains.nested {pending calls : List Pending} {s : Session} {r : Ending}
    (h : ctx.Drains fetch pending s calls r) (scope : Scope) :
    (ctx.nested scope).Drains fetch pending s calls r := by
  induction h with
  | nil s => exact .nil s
  | refused hfetch => exact .refused hfetch
  | unread hfetch hnested => exact .unread hfetch hnested
  | step hfetch hnested _ ih => exact .step hfetch hnested ih

theorem drainWith_nested (scope : Scope) (pending : List Pending) (s : Session) :
    (ctx.nested scope).drainWith fetch pending s = ctx.drainWith fetch pending s := by
  obtain ⟨calls, h⟩ := ctx.exists_drains fetch pending s
  exact (h.nested scope).eq_drainWith

/-- Draining a single file is visiting it with the expansion of its includes. -/
theorem visit_eq_drainWith {next : Scope → Nat → List Include → Session → Option Ending}
    {p : Pending} {s : Session}
    (hnext : ∀ scope includes s', s'.ledger = s.ledger →
      next scope (p.depth + 1) includes s' =
        some ((ctx.nested scope).expandFrom fetch (p.depth + 1) includes s')) :
    visit fetch next p s = some (ctx.drainWith fetch [p] s) := by
  unfold visit
  cases hfetch : fetch p.source with
  | error e => exact congrArg some (drainWith_of_fetch_error hfetch).symm
  | ok fetched =>
    dsimp only
    cases hread : Include.listOfText fetched.content with
    | error e =>
      have hrun := ctx.runOn_nestedSources_of_error p hread (s.ask p)
      exact congrArg some (drainWith_of_nested_error hfetch hrun).symm
    | ok includes =>
      dsimp only
      have hrun := ctx.runOn_nestedSources_of_ok p hread (s.ask p)
      rw [hnext fetched.scope includes _ (by rfl), Option.map_some]
      unfold expandFrom
      split
      · next e s' hresolve =>
        rw [hresolve] at hrun
        rw [drainWith_of_nested_error hfetch hrun]
        rfl
      · next sources s' hresolve =>
        rw [hresolve] at hrun
        rw [drainWith_of_nested_ok hfetch hrun, List.append_nil, drainWith_nested]

/-- Visiting files one after the other is draining them, when each visit is and there is less than
`fuel` room at every visit. -/
theorem visitAll_eq_drainWith {visit : Pending → Session → Option Ending} {fuel : Nat}
    (hvisit : ∀ p s, s.ledger.room < fuel → visit p s = some (ctx.drainWith fetch [p] s))
    {ps : List Pending} {s : Session} (hroom : ps ≠ [] → s.ledger.room < fuel) :
    visitAll visit ps s = some (ctx.drainWith fetch ps s) := by
  induction ps generalizing s with
  | nil => exact congrArg some (drainWith_nil s).symm
  | cons p rest ih =>
    have hs := hroom (List.cons_ne_nil p rest)
    obtain ⟨added, hgrows⟩ := ctx.exists_grows_drainWith fetch [p] s
    have hleft := hgrows.room_eq
    unfold visitAll
    rw [hvisit p s hs]
    change _ = some (ctx.drainWith fetch ([p] ++ rest) s)
    rw [drainWith_append]
    rcases hfirst : ctx.drainWith fetch [p] s with ⟨e | files, s'⟩
    · rfl
    · rw [hfirst] at hleft
      dsimp only at hleft ⊢
      rw [ih fun _ => by omega]
      rfl

/-- **The recursion is never cut off.** Every level that has a source takes room from the ledger, so
more levels than it has room for are enough; the recursion then ends as the loop does. -/
theorem expandAtFuel_eq {fuel depth : Nat} {includes : List Include} {s : Session}
    (h : s.ledger.room < fuel) :
    ctx.expandAtFuel fetch fuel depth includes s =
      some (ctx.expandFrom fetch depth includes s) := by
  induction fuel generalizing ctx depth includes s with
  | zero => omega
  | succ fuel ih =>
    unfold expandAtFuel expandFrom
    rcases hresolve : runOn (ctx.resolve includes) s with ⟨e | sources, s'⟩
    · rfl
    · have hroom := room_resolve hresolve
      dsimp only
      have hvisit : ∀ p s₁, s₁.ledger.room < fuel →
          visit fetch (fun scope => expandAtFuel fetch fuel (ctx.nested scope)) p s₁ =
            some (ctx.drainWith fetch [p] s₁) := by
        intro p s₁ hs₁
        refine visit_eq_drainWith fun scope includes' s₂ hs₂ => ?_
        exact ih (hs₂ ▸ hs₁)
      refine visitAll_eq_drainWith hvisit fun hne => ?_
      have hpos : 0 < sources.length := by
        refine List.length_pos_iff.mpr ?_
        rintro rfl
        exact hne rfl
      omega

/-! ## What the fetcher is asked for -/

/-- A fetcher that keeps the sources that it is asked for, in order. -/
def logged (fetch : Source → Except SourceError Fetched) (source : Source) :
    StateM (List Source) (Except SourceError Fetched) := do
  modify (· ++ [source])
  return fetch source

theorem run_logged (fetch : Source → Except SourceError Fetched) (source : Source)
    (log : List Source) :
    (logged fetch source).run log = pure (fetch source, log ++ [source]) := rfl

/-- The fetcher is asked for the files of the relation, in the same order. -/
theorem Drains.run_drain_logged {pending : List Pending} {s : Session} {calls : List Pending}
    {r : Ending} (h : ctx.Drains fetch pending s calls r) (log : List Source) :
    Id.run ((ctx.drain (logged fetch) pending s).run log) =
      (r, log ++ calls.map Pending.source) := by
  induction h generalizing log with
  | nil s =>
    rw [drain_nil, List.map_nil, List.append_nil]
    rfl
  | refused hfetch =>
    rw [drain_cons, StateT.run_bind, run_logged, hfetch]
    rfl
  | unread hfetch hnested =>
    unfold Session.ask at hnested
    rw [drain_cons, StateT.run_bind, run_logged, hfetch, pure_bind]
    dsimp only
    rw [hnested]
    rfl
  | @step p rest s s' fetched sources calls r hfetch hnested _ ih =>
    unfold Session.ask at hnested
    rw [drain_cons, StateT.run_bind, run_logged, hfetch, pure_bind]
    dsimp only
    rw [hnested]
    dsimp only
    have hrest := ih (log ++ [p.source])
    unfold waitingAt at hrest
    rw [StateT.run_bind, Id.run_bind, hrest, List.append_assoc]
    rfl

theorem Expands.run_expand_logged {includes : List Include} {s : Session} {calls : List Pending}
    {r : Ending} (h : ctx.Expands fetch includes s calls r) (log : List Source) :
    Id.run ((ctx.expand (logged fetch) includes s).run log) =
      (r, log ++ calls.map Pending.source) := by
  unfold expand
  cases h with
  | unresolved hresolve =>
    rw [hresolve, List.map_nil, List.append_nil]
    rfl
  | resolved hresolve hdrains =>
    rw [hresolve]
    exact hdrains.run_drain_logged log

/-! ## The end of an expansion -/

/-- **An expansion ends, whatever is fetched.** As a recursion it is never cut off when it may go
more levels deep than the ledger has room. However it ends, the files that the fetcher is asked for
come from different includes, each recorded since the start; so there are no more of them than the
ledger has room, none is nested in that many files, and when all goes well they are the files of
the result. -/
theorem expand_ends_within_room (ctx : Context) (fetch : Source → Except SourceError Fetched)
    (includes : List Include) (s : Session) :
    (∀ fuel, s.ledger.limit - s.ledger.size < fuel →
      ctx.expandAtFuel fetch fuel 0 includes s = some (ctx.expandWith fetch includes s)) ∧
    ∃ calls added,
      (∀ log, Id.run ((ctx.expand (logged fetch) includes s).run log) =
        (ctx.expandWith fetch includes s, log ++ calls.map Pending.source)) ∧
      (ctx.expandWith fetch includes s).2.asked = s.asked ++ calls ∧
      (ctx.expandWith fetch includes s).2.ledger.entries = s.ledger.entries ++ added ∧
      (calls.map Pending.entry).Nodup ∧
      (∀ c ∈ calls, c.entry ∈ added) ∧
      calls.length ≤ s.ledger.limit - s.ledger.size ∧
      (∀ c ∈ calls, c.depth < s.ledger.limit - s.ledger.size) ∧
      ∀ files, (ctx.expandWith fetch includes s).1 = .ok files →
        files.map Included.pending = calls := by
  constructor
  · intro fuel hfuel
    rw [expandAtFuel_eq hfuel, expandFrom_zero]
  · obtain ⟨calls, h⟩ := ctx.exists_expands fetch includes s
    obtain ⟨added, lost, hgrows, hperm, -⟩ := h.exists_balance
    have hlength := hgrows.length_le
    unfold Ledger.room at hlength
    refine ⟨calls, added, h.run_expand_logged, h.asked_eq, hgrows.entries_eq, ?_, ?_, ?_, ?_, ?_⟩
    · have hnodup := hperm.nodup_iff.mpr hgrows.nodup
      exact (List.nodup_append.mp hnodup).1
    · intro c hc
      exact hperm.subset (List.mem_append_left lost (List.mem_map_of_mem hc))
    · have hcount := hperm.length_eq
      rw [List.length_append, List.length_map] at hcount
      omega
    · intro c hc
      have hdepth := h.depth_add_lt_size c hc
      have hsize := hgrows.size_eq
      omega
    · intro files hfiles
      exact h.pending_eq hfiles

/-- A file that includes itself, in a new scope each time, is asked for until the ledger is full. -/
example :
    (expandWith { scope := ⟨"group/app", "1"⟩ }
      (fun source => .ok {
        content := "include local=\"self.kdl\""
        scope := ⟨"group/app", source.origin.scope.revision ++ "1"⟩ })
      [.path "self.kdl"] { ledger := { limit := 3 } }).2.asked.map Pending.depth = [0, 1, 2] := by
  decide +kernel

end IncludeTree.Context
