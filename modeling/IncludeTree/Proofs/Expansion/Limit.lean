import IncludeTree.Proofs.Expansion.Preorder

/-!
# What the limit of a ledger decides

Two ledgers with the same entries and different limits admit the same until the smaller one is full.
`CutOff limit r r'` compares what a run comes to with what it comes to under a greater `limit`:
either the same, or the first run ends because its ledger is full, and then the second has at least
what the first has recorded by then. This is shown for recording a list of entries
(`Ledger.cutOff_recordAll`), hence for a resolution (`cutOff_resolution`), and by induction on the
turns of the loop for the draining of a work list (`Drains.cutOff`): the two runs go side by side
until the first is cut off, and what the second does from there on only adds to its ledger.
-/

namespace IncludeTree

/-- The ledger with another limit. -/
def Ledger.withLimit (l : Ledger) (limit : Nat) : Ledger := { l with limit }

/-- What a run comes to, and what it comes to when the limit is raised to `limit`. -/
inductive CutOff {α : Type} (limit : Nat) (r r' : Except ResolveError α × Ledger) : Prop where
  /-- The limit has no part in it. -/
  | same : r'.1 = r.1 → r'.2 = r.2.withLimit limit → CutOff limit r r'
  /-- The first run finds its ledger full. -/
  | full {n : Nat} : r.1 = .error (.tooMany n) → r.2.entries <+: r'.2.entries → CutOff limit r r'

/-- Whatever is made of the outcomes, as long as errors stay what they are. -/
theorem CutOff.map {α β : Type} {limit : Nat} {r r' : Except ResolveError α × Ledger}
    (h : CutOff limit r r') (f : Except ResolveError α → Except ResolveError β)
    (hf : ∀ e, f (.error e) = .error e) : CutOff limit (f r.1, r.2) (f r'.1, r'.2) := by
  cases h with
  | same hout hledger => exact .same (congrArg f hout) hledger
  | full hfull hinitial => exact .full ((congrArg f hfull).trans (hf _)) hinitial

/-! ## Recording and resolving -/

/-- Recording entries is cut off where the ledger is full. -/
theorem Ledger.cutOff_recordAll {l : Ledger} {limit : Nat} (hlimit : l.limit ≤ limit)
    (es : List Entry) : CutOff limit (l.recordAll es) ((l.withLimit limit).recordAll es) := by
  induction es generalizing l with
  | nil => exact .same rfl rfl
  | cons e es ih =>
    cases hrecord : l.record e with
    | ok l' =>
      obtain ⟨⟨hlt, hnew⟩, rfl⟩ := record_eq_append.mp hrecord
      have hwide : (l.withLimit limit).record e = .ok ((l.append [e]).withLimit limit) :=
        record_eq_append.mpr ⟨⟨hlt.trans_le hlimit, hnew⟩, rfl⟩
      rw [recordAll_cons_of_ok hrecord, recordAll_cons_of_ok hwide]
      exact ih hlimit
    | error err =>
      rw [recordAll_cons_of_error hrecord]
      rcases record_eq_error.mp hrecord with ⟨-, rfl⟩ | ⟨hlt, hmem, rfl⟩
      · obtain ⟨added, hgrows, -⟩ := (l.withLimit limit).exists_grows_recordAll (e :: es)
        exact .full rfl hgrows.entries_isPrefix
      · have hwide : (l.withLimit limit).record e = .error (.duplicate e.directive) :=
          record_eq_error.mpr (.inr ⟨hlt.trans_le hlimit, hmem, rfl⟩)
        rw [recordAll_cons_of_error hwide]
        exact .same rfl rfl

/-- What a run comes to, as far as the ledger is concerned. -/
def byLedger {α : Type} (r : Except ResolveError α × Session) : Except ResolveError α × Ledger :=
  (r.1, r.2.ledger)

namespace Context

open ResolveM

variable {ctx : Context} {includes : List Include} {limit : Nat}

theorem resolution_of_plan_ok {ds : List Directive} (hplan : ctx.plan includes = .ok ds)
    (l : Ledger) :
    ctx.resolution includes l =
      ((l.recordAll (ds.map ctx.entry)).1 >>= fun _ => ds.mapM ctx.sourceOf,
        (l.recordAll (ds.map ctx.entry)).2) := by
  simp only [resolution, hplan]
  rcases l.recordAll (ds.map ctx.entry) with ⟨e | ⟨⟩, l'⟩ <;> rfl

/-- A resolution is cut off where the recording is. -/
theorem cutOff_resolution {l : Ledger} (hlimit : l.limit ≤ limit) :
    CutOff limit (ctx.resolution includes l) (ctx.resolution includes (l.withLimit limit)) := by
  cases hplan : ctx.plan includes with
  | error e =>
    rw [resolution_of_plan_error hplan, resolution_of_plan_error hplan]
    exact .same rfl rfl
  | ok ds =>
    rw [resolution_of_plan_ok hplan, resolution_of_plan_ok hplan]
    have hrecord := Ledger.cutOff_recordAll hlimit (ds.map ctx.entry)
    exact hrecord.map (· >>= fun _ => ds.mapM ctx.sourceOf) fun _ => rfl

theorem byLedger_resolve (ctx : Context) (includes : List Include) (s : Session) :
    byLedger (runOn (ctx.resolve includes) s) = ctx.resolution includes s.ledger :=
  Prod.ext (ctx.follows_resolve includes s).1 (ctx.follows_resolve includes s).2

variable {s t : Session}

theorem cutOff_resolve (ht : t.ledger = s.ledger.withLimit limit)
    (hlimit : s.ledger.limit ≤ limit) :
    CutOff limit (byLedger (runOn (ctx.resolve includes) s))
      (byLedger (runOn (ctx.resolve includes) t)) := by
  rw [byLedger_resolve, byLedger_resolve, ht]
  exact cutOff_resolution hlimit

/-- Resolving what a file includes is cut off where the ledger is full. -/
theorem cutOff_nestedSources (ctx : Context) (p : Pending) (fetched : Fetched)
    (ht : t.ledger = s.ledger.withLimit limit) (hlimit : s.ledger.limit ≤ limit) :
    CutOff limit (byLedger (runOn (ctx.nestedSources p fetched) s))
      (byLedger (runOn (ctx.nestedSources p fetched) t)) := by
  cases hread : Include.listOfText fetched.content with
  | error e =>
    rw [ctx.runOn_nestedSources_of_error p hread, ctx.runOn_nestedSources_of_error p hread]
    exact .same rfl ht
  | ok includes =>
    rw [ctx.runOn_nestedSources_of_ok p hread, ctx.runOn_nestedSources_of_ok p hread]
    exact cutOff_resolve ht hlimit

/-! ## Expanding -/

variable {fetch : Source → Except SourceError Fetched}

/-- What the first file of a work list includes is recorded for good. -/
theorem isPrefix_drainWith {p : Pending} {rest : List Pending} {fetched : Fetched}
    {x : Except ResolveError (List Source)} {s' : Session} (hfetch : fetch p.source = .ok fetched)
    (hnested : runOn (ctx.nestedSources p fetched) (s.ask p) = (x, s')) :
    s'.ledger.entries <+: (ctx.drainWith fetch (p :: rest) s).2.ledger.entries := by
  cases x with
  | error e =>
    exact drainWith_of_nested_error hfetch hnested ▸ List.prefix_rfl
  | ok sources =>
    rw [drainWith_of_nested_ok hfetch hnested, Ending.prepend_snd]
    obtain ⟨added, hgrows⟩ :=
      ctx.exists_grows_drainWith fetch (waitingAt (p.depth + 1) sources ++ rest) s'
    exact hgrows.entries_isPrefix

/-- **The draining of a work list is cut off where the ledger is full.** Until then every turn of
the loop finds the same under both limits. -/
theorem Drains.cutOff {pending calls : List Pending} {r : Ending}
    (h : ctx.Drains fetch pending s calls r) (ht : t.ledger = s.ledger.withLimit limit)
    (hlimit : s.ledger.limit ≤ limit) :
    CutOff limit (byLedger r) (byLedger (ctx.drainWith fetch pending t)) := by
  induction h generalizing t with
  | nil s =>
    rw [drainWith_nil]
    exact .same rfl ht
  | refused hfetch =>
    rw [drainWith_of_fetch_error hfetch]
    exact .same rfl ht
  | @unread p rest s s' fetched e hfetch hnested =>
    have hcut := ctx.cutOff_nestedSources p fetched (s := s.ask p) (t := t.ask p) ht hlimit
    rcases hwide : runOn (ctx.nestedSources p fetched) (t.ask p) with ⟨x, t'⟩
    rw [hnested, hwide] at hcut
    cases hcut with
    | same hout hledger =>
      obtain rfl : x = .error e := hout
      rw [drainWith_of_nested_error hfetch hwide]
      exact .same rfl hledger
    | full hfull hinitial =>
      obtain rfl := Except.error.inj hfull
      exact .full rfl (hinitial.trans (isPrefix_drainWith hfetch hwide))
  | @step p rest s s' fetched sources calls r hfetch hnested _ ih =>
    have hcut := ctx.cutOff_nestedSources p fetched (s := s.ask p) (t := t.ask p) ht hlimit
    rcases hwide : runOn (ctx.nestedSources p fetched) (t.ask p) with ⟨x, t'⟩
    rw [hnested, hwide] at hcut
    cases hcut with
    | same hout hledger =>
      obtain rfl : x = .ok sources := hout
      have hkept : s'.ledger.limit = s.ledger.limit := (grows_nestedSources hnested).1.limit_eq
      rw [drainWith_of_nested_ok hfetch hwide]
      exact (ih hledger (hkept ▸ hlimit)).map (Except.map _) fun _ => rfl
    | full hfull _ => cases hfull

/-- What the includes are resolved to is recorded for good. -/
theorem isPrefix_expandWith {x : Except ResolveError (List Source)} {s' : Session}
    (hresolve : runOn (ctx.resolve includes) s = (x, s')) :
    s'.ledger.entries <+: (ctx.expandWith fetch includes s).2.ledger.entries := by
  cases x with
  | error e =>
    exact ctx.expandWith_of_resolve_error fetch hresolve ▸ List.prefix_rfl
  | ok sources =>
    rw [ctx.expandWith_of_resolve_ok fetch hresolve]
    obtain ⟨added, hgrows⟩ := ctx.exists_grows_drainWith fetch (waitingAt 0 sources) s'
    exact hgrows.entries_isPrefix

/-- An expansion is cut off where the ledger is full. -/
theorem Expands.cutOff {calls : List Pending} {r : Ending}
    (h : ctx.Expands fetch includes s calls r) (ht : t.ledger = s.ledger.withLimit limit)
    (hlimit : s.ledger.limit ≤ limit) :
    CutOff limit (byLedger r) (byLedger (ctx.expandWith fetch includes t)) := by
  have hcut : CutOff limit (byLedger (runOn (ctx.resolve includes) s))
    (byLedger (runOn (ctx.resolve includes) t)) := cutOff_resolve ht hlimit
  rcases hwide : runOn (ctx.resolve includes) t with ⟨x, t'⟩
  cases h with
  | @unresolved e s' hresolve =>
    rw [hresolve, hwide] at hcut
    cases hcut with
    | same hout hledger =>
      obtain rfl : x = .error e := hout
      rw [ctx.expandWith_of_resolve_error fetch hwide]
      exact .same rfl hledger
    | full hfull hinitial =>
      obtain rfl := Except.error.inj hfull
      exact .full rfl (hinitial.trans (isPrefix_expandWith hwide))
  | @resolved sources s' calls r hresolve hdrains =>
    rw [hresolve, hwide] at hcut
    cases hcut with
    | same hout hledger =>
      obtain rfl : x = .ok sources := hout
      have hkept : s'.ledger.limit = s.ledger.limit := (grows_resolve hresolve).1.limit_eq
      rw [ctx.expandWith_of_resolve_ok fetch hwide]
      exact hdrains.cutOff hledger (hkept ▸ hlimit)
    | full hfull _ => cases hfull

/-! ## Runs under two limits -/

/-- Whether a run under a smaller limit only stops short of the same run under a greater one: it
ends in the same way and leaves the same entries unless it finds its ledger full, and in any case
the other run leaves at least its entries, before any others. -/
structure StopsShort {α : Type} (r r' : Except ResolveError α × Session) : Prop where
  /-- A run that does not end at its limit does not depend on it. -/
  same : (∀ n, r.1 ≠ .error (.tooMany n)) →
    r'.1 = r.1 ∧ r'.2.ledger.entries = r.2.ledger.entries
  /-- What has been recorded under the smaller limit is recorded first under the greater. -/
  entries_isPrefix : r.2.ledger.entries <+: r'.2.ledger.entries

theorem StopsShort.of_cutOff {α : Type} {r r' : Except ResolveError α × Session}
    (h : CutOff limit (byLedger r) (byLedger r')) : StopsShort r r' := by
  cases h with
  | same hout hledger =>
    have hentries : r'.2.ledger.entries = r.2.ledger.entries := by
      change (byLedger r').2.entries = _
      rw [hledger]
      rfl
    exact ⟨fun _ => ⟨hout, hentries⟩, hentries ▸ List.prefix_rfl⟩
  | full hfull hinitial => exact ⟨fun hnot => absurd hfull (hnot _), hinitial⟩

/-- **The limit only cuts off.** Take two sessions with the same entries in their ledgers, the
second with at least the limit of the first. A resolution or an expansion that does not end at the
limit of the first comes to the same in the second; one that does has recorded by then what it
begins with in the second. -/
theorem limit_only_cuts_off (ctx : Context) (fetch : Source → Except SourceError Fetched)
    (includes : List Include) (hentries : t.ledger.entries = s.ledger.entries)
    (hlimit : s.ledger.limit ≤ t.ledger.limit) :
    StopsShort (runOn (ctx.resolve includes) s) (runOn (ctx.resolve includes) t) ∧
      StopsShort (ctx.expandWith fetch includes s) (ctx.expandWith fetch includes t) := by
  have ht : t.ledger = s.ledger.withLimit t.ledger.limit := by
    unfold Ledger.withLimit
    rw [← hentries]
  obtain ⟨calls, hexpands⟩ := ctx.exists_expands fetch includes s
  exact ⟨.of_cutOff (cutOff_resolve ht hlimit), .of_cutOff (hexpands.cutOff ht hlimit)⟩

/-- An expansion of three files, one of which another includes, under a limit. -/
def expandSample (limit : Nat) : Ending :=
  expandWith { scope := ⟨"group/app", "main"⟩ } fetchSample [.path "outer.kdl", .path "next.kdl"]
    { ledger := { limit } }

/-- There is room for the three files under a limit of three, hence also under one of four; under a
limit of two the first two of their entries are made. -/
theorem limit_only_cuts_off_sample :
    (expandSample 3).1 = .ok [outerFile, innerFile, nextFile] ∧
    (expandSample 4).1 = (expandSample 3).1 ∧
    (expandSample 2).2.ledger.entries = [outerFile.source.entry, nextFile.source.entry] ∧
    (expandSample 2).2.ledger.entries <+: (expandSample 3).2.ledger.entries := by
  have hfiles : (expandSample 3).1.toOption = some [outerFile, innerFile, nextFile] := by
    decide +kernel
  have hentries : (expandSample 2).2.ledger.entries =
      [outerFile.source.entry, nextFile.source.entry] := by
    decide +kernel
  have hrun : (expandSample 3).1 = .ok [outerFile, innerFile, nextFile] :=
    congrArg Prod.fst (Ending.eq_of_toOption hfiles)
  have hshort : ∀ m n, m ≤ n → StopsShort (expandSample m) (expandSample n) := fun m n hle =>
    (limit_only_cuts_off _ _ _ (s := { ledger := { limit := m } })
      (t := { ledger := { limit := n } }) rfl hle).2
  refine ⟨hrun, ((hshort 3 4 (by decide)).same fun n hn => ?_).1, hentries,
    (hshort 2 3 (by decide)).entries_isPrefix⟩
  rw [hrun] at hn
  cases hn

end Context

end IncludeTree
