import IncludeTree.Proofs.Expansion.Worklist

/-!
# The ledger over an expansion

What a file includes is recorded before any of it is fetched, so a file that waits has an entry of
its own. `Drains.exists_balance` is the balance of entries that every turn of the loop keeps: those
of the files that are asked for, with those that are lost to an error, are those of the files that
waited at the start, with those that were added since. `Drains.depth_add_lt_size` bounds the depth
of a file by the entries that were made before it.

`Expands.exists_balance` says the same of a whole expansion, where nothing waits at the start, and
`exists_grows_expandWith` that an expansion, however it ends, only adds to the ledger.
-/

namespace IncludeTree.Context

open ResolveM

variable {ctx : Context} {fetch : Source → Except SourceError Fetched}

/-! ## The includes of a fetched file -/

section nested

variable {p : Pending} {fetched : Fetched} {s s' : Session}

theorem runOn_nestedSources_of_error (ctx : Context) (p : Pending) {e : ResolveError}
    (h : Include.listOfText fetched.content = .error e) (s : Session) :
    runOn (ctx.nestedSources p fetched) s = (.error e, s) := by
  unfold nestedSources
  rw [h]
  rfl

theorem runOn_nestedSources_of_ok (ctx : Context) (p : Pending) {includes : List Include}
    (h : Include.listOfText fetched.content = .ok includes) (s : Session) :
    runOn (ctx.nestedSources p fetched) s =
      runOn ((ctx.nested fetched.scope).resolve includes)
        (s.add (.included p.source p.depth includes.length)) := by
  unfold nestedSources
  rw [h]
  rfl

/-- Includes that are resolved have been read. -/
theorem exists_resolve_of_nestedSources {sources : List Source}
    (h : runOn (ctx.nestedSources p fetched) s = (.ok sources, s')) :
    ∃ includes, Include.listOfText fetched.content = .ok includes ∧
      runOn ((ctx.nested fetched.scope).resolve includes)
        (s.add (.included p.source p.depth includes.length)) = (.ok sources, s') := by
  cases hread : Include.listOfText fetched.content with
  | error e =>
    rw [ctx.runOn_nestedSources_of_error p hread] at h
    cases h
  | ok includes =>
    rw [ctx.runOn_nestedSources_of_ok p hread] at h
    exact ⟨includes, rfl, h⟩

theorem exists_grows_nestedSources (ctx : Context) (p : Pending) (fetched : Fetched)
    (s : Session) :
    ∃ added, s.ledger.Grows (runOn (ctx.nestedSources p fetched) s).2.ledger added := by
  cases h : Include.listOfText fetched.content with
  | error e =>
    rw [ctx.runOn_nestedSources_of_error p h]
    exact ⟨[], Ledger.Grows.refl _⟩
  | ok includes =>
    rw [ctx.runOn_nestedSources_of_ok p h]
    exact exists_grows_resolve (ctx.nested fetched.scope) includes
      (s.add (.included p.source p.depth includes.length))

/-- What a file includes is recorded, in the scope that came with the file. -/
theorem grows_nestedSources {sources : List Source}
    (h : runOn (ctx.nestedSources p fetched) s = (.ok sources, s')) :
    s.ledger.Grows s'.ledger (sources.map Source.entry) ∧
      ∀ source ∈ sources, source.origin.scope = fetched.scope := by
  obtain ⟨includes, -, hresolve⟩ := exists_resolve_of_nestedSources h
  exact grows_resolve hresolve

end nested

/-! ## The balance of entries -/

/-- Whether each of the files that wait was recorded after `base` entries and one more for each file
that it is nested in. -/
def Rooted (base : Nat) (pending : List Pending) (s : Session) : Prop :=
  ∀ p ∈ pending, p.depth + base < s.ledger.size

/-- What a file includes is rooted when the file is: a source takes an entry of its own. -/
theorem Rooted.step {base : Nat} {p : Pending} {rest : List Pending} {fetched : Fetched}
    {sources : List Source} {s s' : Session} (h : Rooted base (p :: rest) s)
    (hnested : runOn (ctx.nestedSources p fetched) (s.ask p) = (.ok sources, s')) :
    Rooted base (waitingAt (p.depth + 1) sources ++ rest) s' := by
  have hsize := (grows_nestedSources hnested).1.size_eq
  rw [Session.ask_ledger, List.length_map] at hsize
  intro q hq
  rcases List.mem_append.mp hq with hq | hq
  · have hdepth := depth_of_mem_waitingAt hq
    have hp := h p List.mem_cons_self
    have hpos : 0 < sources.length := by
      obtain ⟨source, hsource, -⟩ := List.mem_map.mp hq
      exact List.length_pos_of_mem hsource
    omega
  · have hrest := h q (List.mem_cons_of_mem p hq)
    omega

theorem rooted_waitingAt_zero {includes : List Include} {sources : List Source} {s s' : Session}
    (h : runOn (ctx.resolve includes) s = (.ok sources, s')) :
    Rooted s.ledger.size (waitingAt 0 sources) s' := by
  have hsize := (grows_resolve h).1.size_eq
  rw [List.length_map] at hsize
  intro p hp
  have hdepth := depth_of_mem_waitingAt hp
  obtain ⟨source, hsource, -⟩ := List.mem_map.mp hp
  have hpos := List.length_pos_of_mem hsource
  omega

namespace Drains

variable {pending : List Pending} {s : Session} {calls : List Pending} {r : Ending}

/-- **The balance of entries.** The files that are asked for, with those that an error leaves
behind, are those that waited, with those that were added since. -/
theorem exists_balance (h : ctx.Drains fetch pending s calls r) :
    ∃ added lost, s.ledger.Grows r.2.ledger added ∧
      (calls.map Pending.entry ++ lost).Perm (pending.map Pending.entry ++ added) ∧
      ∀ files, r.1 = .ok files → lost = [] := by
  induction h with
  | nil s => exact ⟨[], [], Ledger.Grows.refl _, List.Perm.refl _, fun _ _ => rfl⟩
  | @refused p rest s e _ =>
    refine ⟨[], rest.map Pending.entry, Ledger.Grows.refl _, ?_, fun _ hok => by cases hok⟩
    rw [List.append_nil]
    exact List.Perm.refl _
  | @unread p rest s s' fetched e _ hnested =>
    obtain ⟨added, hgrows⟩ := ctx.exists_grows_nestedSources p fetched (s.ask p)
    rw [hnested] at hgrows
    refine ⟨added, rest.map Pending.entry ++ added, hgrows, ?_, fun _ hok => by cases hok⟩
    rw [← List.append_assoc]
    exact List.Perm.refl _
  | @step p rest s s' fetched sources calls r _ hnested _ ih =>
    obtain ⟨added, lost, hgrows, hperm, hlost⟩ := ih
    have hnew := (grows_nestedSources hnested).1
    refine ⟨sources.map Source.entry ++ added, lost, hnew.trans hgrows, ?_, ?_⟩
    · rw [List.map_append, map_entry_waitingAt] at hperm
      refine (hperm.cons p.entry).trans (List.Perm.cons p.entry ?_)
      -- the new entries move from the front of the work list to the front of the added ones
      change List.Perm _ (rest.map Pending.entry ++ (sources.map Source.entry ++ added))
      rw [← List.append_assoc]
      exact List.perm_append_comm.append_right added
    · intro files hok
      obtain ⟨later, hlater, -⟩ := Ending.prepend_fst_eq_ok.mp hok
      exact hlost later hlater

/-- A file that is asked for is nested in fewer files than there are entries after the first
`base`. -/
theorem depth_add_lt_size {base : Nat} (h : ctx.Drains fetch pending s calls r)
    (hrooted : Rooted base pending s) : ∀ c ∈ calls, c.depth + base < r.2.ledger.size := by
  induction h with
  | nil s =>
    intro c hc
    cases hc
  | refused _ =>
    intro c hc
    obtain rfl := List.mem_singleton.mp hc
    exact hrooted c List.mem_cons_self
  | @unread p _ s s' fetched _ _ hnested =>
    intro c hc
    obtain rfl := List.mem_singleton.mp hc
    obtain ⟨added, hgrows⟩ := ctx.exists_grows_nestedSources c fetched (s.ask c)
    rw [hnested] at hgrows
    have hsize := hgrows.size_eq
    have hc := hrooted c List.mem_cons_self
    rw [Session.ask_ledger] at hsize
    omega
  | @step p rest s s' fetched sources calls r _ hnested hdrains ih =>
    intro c hc
    rcases List.mem_cons.mp hc with rfl | hc
    · obtain ⟨added, -, hgrows, -⟩ := hdrains.exists_balance
      have hnew := (grows_nestedSources hnested).1.size_eq
      have hsize := hgrows.size_eq
      have hc := hrooted c List.mem_cons_self
      rw [Session.ask_ledger] at hnew
      rw [Ending.prepend_snd]
      omega
    · exact ih (hrooted.step hnested) c hc

end Drains

theorem exists_grows_drainWith (ctx : Context) (fetch : Source → Except SourceError Fetched)
    (pending : List Pending) (s : Session) :
    ∃ added, s.ledger.Grows (ctx.drainWith fetch pending s).2.ledger added := by
  obtain ⟨calls, h⟩ := ctx.exists_drains fetch pending s
  obtain ⟨added, -, hgrows, -⟩ := h.exists_balance
  exact ⟨added, hgrows⟩

/-! ## The whole expansion -/

namespace Expands

variable {includes : List Include} {s : Session} {calls : List Pending} {r : Ending}

/-- **What an expansion asks for is what it records.** The files that are asked for, with those that
an error leaves behind, are those that were added to the ledger. -/
theorem exists_balance (h : ctx.Expands fetch includes s calls r) :
    ∃ added lost, s.ledger.Grows r.2.ledger added ∧
      (calls.map Pending.entry ++ lost).Perm added ∧ ∀ files, r.1 = .ok files → lost = [] := by
  cases h with
  | unresolved hresolve =>
    obtain ⟨added, hgrows⟩ := exists_grows_resolve ctx includes s
    rw [hresolve] at hgrows
    exact ⟨added, added, hgrows, List.Perm.refl added, fun _ hok => by cases hok⟩
  | resolved hresolve hdrains =>
    obtain ⟨added, lost, hgrows, hperm, hlost⟩ := hdrains.exists_balance
    rw [map_entry_waitingAt] at hperm
    exact ⟨_, lost, (grows_resolve hresolve).1.trans hgrows, hperm, hlost⟩

/-- A file that is asked for is nested in fewer files than there are new entries. -/
theorem depth_add_lt_size (h : ctx.Expands fetch includes s calls r) :
    ∀ c ∈ calls, c.depth + s.ledger.size < r.2.ledger.size := by
  cases h with
  | unresolved _ =>
    intro c hc
    cases hc
  | resolved hresolve hdrains =>
    exact hdrains.depth_add_lt_size (rooted_waitingAt_zero hresolve)

end Expands

/-- An expansion only adds to the ledger, whether it succeeds or fails. -/
theorem exists_grows_expandWith (ctx : Context) (fetch : Source → Except SourceError Fetched)
    (includes : List Include) (s : Session) :
    ∃ added, s.ledger.Grows (ctx.expandWith fetch includes s).2.ledger added := by
  obtain ⟨calls, h⟩ := ctx.exists_expands fetch includes s
  obtain ⟨added, lost, hgrows, -⟩ := h.exists_balance
  exact ⟨added, hgrows⟩

end IncludeTree.Context
