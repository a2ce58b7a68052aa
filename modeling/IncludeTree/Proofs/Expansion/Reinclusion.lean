import IncludeTree.Proofs.Expansion.Preorder
import IncludeTree.Proofs.Ledger.History
import IncludeTree.Proofs.Resolution.Entries
import IncludeTree.Proofs.Resolution.Failure

/-!
# Nothing is included again

A ledger keeps what it has, so an entry that has been made once is in the way of every later
inclusion of the same directive in the same scope. `Reinclusion` lists the errors that such a
resolution can end with; ambiguity is none of them, because everything is recorded before the first
directive is classified (`exists_reinclusion`).

What waits in an expansion has been recorded (`Recorded`). So in a tree that was expanded without
error no file includes anything that the ledger had when its includes were resolved: not the file
itself, nor one that it is nested in, nor any file before it. `IncludesOnlyNew` says this of one
file, and `Drains.includesOnlyNew` of every file of a result.
-/

namespace IncludeTree.Context

open ResolveM

variable {ctx : Context} {includes : List Include}

/-! ## A resolution that meets an entry of its own -/

/-- The errors that a resolution ends with when one of its directives was recorded before: a rule or
a search fails, or the ledger is full, or it refuses a directive that it has. -/
inductive Reinclusion (ctx : Context) (includes : List Include) (limit : Nat) :
    ResolveError → Prop where
  /-- The stages before the recording fail. -/
  | collaborator {source} :
      ctx.plan includes = .error (.collaborator source) →
      Reinclusion ctx includes limit (.collaborator source)
  /-- The ledger is full before it comes to a directive that it has. -/
  | full : Reinclusion ctx includes limit (.tooMany limit)
  /-- A directive is refused because the ledger has it. -/
  | duplicate {d} : d ∈ ctx.located includes → Reinclusion ctx includes limit (.duplicate d)

/-- What a resolution that succeeds adds to the ledger. -/
theorem grows_located {s s' : Session} {sources : List Source}
    (h : runOn (ctx.resolve includes) s = (.ok sources, s')) :
    s.ledger.Grows s'.ledger ((ctx.located includes).map ctx.entry) := by
  obtain ⟨ds, hplan, hgrows, -⟩ := resolution_eq_ok.mp (exists_runOn_resolve_iff.mp ⟨s', h, rfl⟩)
  obtain ⟨-, -, rfl⟩ := plan_eq_ok.mp hplan
  exact hgrows

theorem Failure.reinclusion {l l' : Ledger} {e : ResolveError} {d : Directive}
    (h : Failure ctx includes l e l') (hmem : d ∈ ctx.located includes)
    (hentry : ctx.entry d ∈ l.entries) : Reinclusion ctx includes l.limit e := by
  cases h with
  | rule hsplit hbefore hd =>
    exact .collaborator (plan_eq_error.mpr (.inl ⟨_, _, _, _, hsplit, hbefore, hd, rfl⟩))
  | search hrules hsplit hbefore hd =>
    exact .collaborator (plan_eq_error.mpr (.inr ⟨hrules, _, _, _, _, hsplit, hbefore, hd, rfl⟩))
  | full => exact .full
  | duplicate _ _ hsplit =>
    refine .duplicate ?_
    rw [hsplit]
    exact List.mem_append_right _ List.mem_cons_self
  | ambiguous _ _ hadm =>
    have hfresh := ((Ledger.admits_iff l _).mp hadm).2.1
    exact absurd hentry (hfresh _ (List.mem_map_of_mem hmem))

/-- **A recorded directive is not resolved again.** A resolution that comes to a directive whose
entry is in the ledger fails, and not for being ambiguous. -/
theorem exists_reinclusion {s : Session} {d : Directive} (hmem : d ∈ ctx.located includes)
    (hentry : ctx.entry d ∈ s.ledger.entries) :
    ∃ e, (runOn (ctx.resolve includes) s).1 = .error e ∧
      Reinclusion ctx includes s.ledger.limit e := by
  rcases hrun : runOn (ctx.resolve includes) s with ⟨e | sources, s'⟩
  · have hfailure := Failure.of_resolution (exists_runOn_resolve_iff.mp ⟨s', hrun, rfl⟩)
    exact ⟨e, rfl, hfailure.reinclusion hmem hentry⟩
  · exact absurd hentry ((grows_located hrun).fresh _ (List.mem_map_of_mem hmem))

/-! ## The files of a tree -/

variable {fetch : Source → Except SourceError Fetched}

/-- Whether what waits has been recorded. -/
def Recorded (pending : List Pending) (s : Session) : Prop :=
  ∀ p ∈ pending, p.entry ∈ s.ledger.entries

/-- What a file includes is recorded before it waits. -/
theorem Recorded.step {p : Pending} {rest : List Pending} {fetched : Fetched}
    {sources : List Source} {s s' : Session} (h : Recorded (p :: rest) s)
    (hnested : runOn (ctx.nestedSources p fetched) (s.ask p) = (.ok sources, s')) :
    Recorded (waitingAt (p.depth + 1) sources ++ rest) s' := by
  have hentries := (grows_nestedSources hnested).1.entries_eq
  rw [Session.ask_ledger] at hentries
  intro q hq
  rw [hentries]
  rcases List.mem_append.mp hq with hq | hq
  · have hnew : q.entry ∈ (waitingAt (p.depth + 1) sources).map Pending.entry :=
      List.mem_map_of_mem hq
    rw [map_entry_waitingAt] at hnew
    exact List.mem_append_right _ hnew
  · exact List.mem_append_left _ (h q (List.mem_cons_of_mem p hq))

theorem recorded_waitingAt {s s' : Session} {sources : List Source}
    (h : runOn (ctx.resolve includes) s = (.ok sources, s')) (depth : Nat) :
    Recorded (waitingAt depth sources) s' := by
  intro p hp
  have hmem : p.entry ∈ (waitingAt depth sources).map Pending.entry := List.mem_map_of_mem hp
  rw [map_entry_waitingAt] at hmem
  rw [(grows_resolve h).1.entries_eq]
  exact List.mem_append_right _ hmem

/-- What a file of a result includes, beside what was there: the ledger at the end has the active
`includes` of the file behind a `past`, and this `past` has none of them. -/
structure IncludesBehind (ctx : Context) (fetch : Source → Except SourceError Fetched)
    (s s' : Session) (before : List Included) (file : Included) (fetched : Fetched)
    (includes : List Include) (past later : List Ledger.Entry) : Prop where
  fetches : fetch file.source = .ok fetched
  content : file.content = fetched.content
  reads : Include.listOfText file.content = .ok includes
  entries : s'.ledger.entries = past ++ ((ctx.nested fetched.scope).located includes).map
    (ctx.nested fetched.scope).entry ++ later
  /-- What the ledger had at the start is in the past. -/
  start : s.ledger.entries <+: past
  /-- The file itself is in the past, and so are those before it. -/
  self : file.source.entry ∈ past
  earlier : ∀ f ∈ before, f.source.entry ∈ past
  fresh : ∀ d ∈ (ctx.nested fetched.scope).located includes,
    (ctx.nested fetched.scope).entry d ∉ past

/-- Whether a file of a result, with the files `before` it, includes nothing that was there when its
includes were resolved. -/
def IncludesOnlyNew (ctx : Context) (fetch : Source → Except SourceError Fetched)
    (s s' : Session) (before : List Included) (file : Included) : Prop :=
  ∃ fetched includes past later,
    ctx.IncludesBehind fetch s s' before file fetched includes past later

theorem IncludesOnlyNew.mono_left {s s₁ s' : Session} {before : List Included} {file : Included}
    (h : ctx.IncludesOnlyNew fetch s₁ s' before file)
    (hs : s.ledger.entries <+: s₁.ledger.entries) :
    ctx.IncludesOnlyNew fetch s s' before file := by
  obtain ⟨fetched, includes, past, later, h⟩ := h
  exact ⟨fetched, includes, past, later, { h with start := hs.trans h.start }⟩

/-- A file that was recorded at the start may be put before the others. -/
theorem IncludesOnlyNew.cons {s s' : Session} {before : List Included} {b file : Included}
    (h : ctx.IncludesOnlyNew fetch s s' before file) (hb : b.source.entry ∈ s.ledger.entries) :
    ctx.IncludesOnlyNew fetch s s' (b :: before) file := by
  obtain ⟨fetched, includes, past, later, h⟩ := h
  have hearlier : ∀ f ∈ b :: before, f.source.entry ∈ past :=
    List.forall_mem_cons.mpr ⟨h.start.subset hb, h.earlier⟩
  exact ⟨fetched, includes, past, later, { h with earlier := hearlier }⟩

/-- The file that is fetched first includes nothing that the ledger has by then. -/
theorem includesOnlyNew_of_nested {p : Pending} {fetched : Fetched} {sources : List Source}
    {s s' s'' : Session} (hfetch : fetch p.source = .ok fetched)
    (hnested : runOn (ctx.nestedSources p fetched) (s.ask p) = (.ok sources, s'))
    (hp : p.entry ∈ s.ledger.entries) (hs : s'.ledger.entries <+: s''.ledger.entries) :
    ctx.IncludesOnlyNew fetch s s'' [] (p.file fetched) := by
  obtain ⟨includes, hread, hresolve⟩ := exists_resolve_of_nestedSources hnested
  have hgrows := grows_located hresolve
  obtain ⟨later, hlater⟩ := hs
  have hentries : s''.ledger.entries = s.ledger.entries ++
      ((ctx.nested fetched.scope).located includes).map (ctx.nested fetched.scope).entry ++
        later := by
    rw [← hlater, hgrows.entries_eq]
    rfl
  exact ⟨fetched, includes, s.ledger.entries, later,
    { fetches := hfetch
      content := rfl
      reads := hread
      entries := hentries
      start := List.prefix_rfl
      self := hp
      earlier := List.forall_mem_nil _
      fresh := fun d hd => hgrows.fresh _ (List.mem_map_of_mem hd) }⟩

/-- **No file of a result includes anything again** that was recorded before its includes were
resolved. -/
theorem Drains.includesOnlyNew {pending : List Pending} {s : Session} {calls : List Pending}
    {r : Ending} {files before after : List Included} {file : Included}
    (h : ctx.Drains fetch pending s calls r) (hok : r.1 = .ok files)
    (hrecorded : Recorded pending s) (hsplit : files = before ++ file :: after) :
    ctx.IncludesOnlyNew fetch s r.2 before file := by
  induction h generalizing files before with
  | nil s =>
    obtain rfl := Except.ok.inj hok
    simp at hsplit
  | refused _ => cases hok
  | unread _ _ => cases hok
  | @step p rest s s' fetched sources calls r hfetch hnested hdrains ih =>
    obtain ⟨later, hlater, rfl⟩ := Ending.prepend_fst_eq_ok.mp hok
    have hp := hrecorded p List.mem_cons_self
    cases before with
    | nil =>
      obtain ⟨rfl, -⟩ := List.cons.inj hsplit
      obtain ⟨added, lost, hgrows, -⟩ := hdrains.exists_balance
      exact includesOnlyNew_of_nested hfetch hnested hp hgrows.entries_isPrefix
    | cons b before =>
      obtain ⟨rfl, hrest⟩ := List.cons.inj hsplit
      have hnew : ctx.IncludesOnlyNew fetch s r.2 before file :=
        (ih hlater (hrecorded.step hnested) hrest).mono_left
          (grows_nestedSources hnested).1.entries_isPrefix
      exact hnew.cons hp

end Context

namespace Session

open ResolveM Context

/-- **Nothing is included again.** Once an entry is in the ledger, whatever is done next, a
resolution in the scope of the entry that comes to its directive fails: with a rule or a search, or
because the ledger is full, or because it refuses a directive that it has. So when an expansion
succeeds at any time, no file of its tree includes what had been recorded by then. -/
theorem recorded_not_included_again (s : Session) (ops : List Operation) :
    (∀ entry ∈ s.ledger.entries, ∀ (ctx : Context) (includes : List Include),
      ctx.scope = entry.scope → entry.directive ∈ ctx.located includes →
      ∃ e, (runOn (ctx.resolve includes) (s.after ops)).1 = .error e ∧
        Reinclusion ctx includes s.ledger.limit e) ∧
    ∀ (ctx : Context) (fetch : Source → Except SourceError Fetched) (includes : List Include)
      (files before after : List Included) (file : Included) (s' : Session),
      ctx.expandWith fetch includes (s.after ops) = (.ok files, s') →
      files = before ++ file :: after →
      ctx.IncludesOnlyNew fetch (s.after ops) s' before file := by
  constructor
  · intro entry hentry ctx includes hscope hmem
    obtain ⟨added, hgrows⟩ := s.exists_grows_after ops
    have hkept : ctx.entry entry.directive ∈ (s.after ops).ledger.entries := by
      unfold Context.entry
      rw [hscope]
      exact hgrows.entries_isPrefix.subset hentry
    rw [← hgrows.limit_eq]
    exact exists_reinclusion hmem hkept
  · intro ctx fetch includes files before after file s' h hsplit
    obtain ⟨calls, hexpands⟩ := ctx.exists_expands fetch includes (s.after ops)
    rw [h] at hexpands
    cases hexpands with
    | resolved hresolve hdrains =>
      have hfile := hdrains.includesOnlyNew rfl (recorded_waitingAt hresolve 0) hsplit
      exact hfile.mono_left (grows_resolve hresolve).1.entries_isPrefix

/-- A path that was included is refused in its own scope, after it has been included in another; and
what the outer file includes is new, though the file after it was recorded by then. -/
theorem recorded_not_included_again_sample :
    (∃ e, (runOn (resolve { scope := ⟨"group/app", "main"⟩ } [.path "outer.kdl"])
        (after { ledger := { entries := [outerFile.source.entry] } }
          [.resolve { scope := ⟨"group/lib", "v1"⟩ } [.path "outer.kdl"]])).1 = .error e ∧
      Reinclusion { scope := ⟨"group/app", "main"⟩ } [.path "outer.kdl"] 100 e) ∧
    ∃ s', expandWith { scope := ⟨"group/app", "main"⟩ } fetchSample
          [.path "outer.kdl", .path "next.kdl"] {} =
        (.ok [outerFile, innerFile, nextFile], s') ∧
      IncludesOnlyNew { scope := ⟨"group/app", "main"⟩ } fetchSample {} s' [] outerFile := by
  constructor
  · refine (recorded_not_included_again { ledger := { entries := [outerFile.source.entry] } }
      [.resolve { scope := ⟨"group/lib", "v1"⟩ } [.path "outer.kdl"]]).1
        outerFile.source.entry List.mem_cons_self { scope := ⟨"group/app", "main"⟩ }
        [.path "outer.kdl"] rfl ?_
    decide +kernel
  · have hfiles : (expandWith { scope := ⟨"group/app", "main"⟩ } fetchSample
        [.path "outer.kdl", .path "next.kdl"] {}).1.toOption =
          some [outerFile, innerFile, nextFile] := by
      decide +kernel
    have hrun := Ending.eq_of_toOption hfiles
    exact ⟨_, hrun, (recorded_not_included_again {} []).2 _ _ _ _ [] [innerFile, nextFile] outerFile
      _ hrun rfl⟩

end Session

end IncludeTree
