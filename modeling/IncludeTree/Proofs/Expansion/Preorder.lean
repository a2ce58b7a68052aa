import IncludeTree.Proofs.Expansion.Growth
import Mathlib.Data.List.Chain

/-!
# The order of an expansion

The result of an expansion is the tree of its files in pre-order, each with its depth. What waits is
always ordered by depth, deepest first (`Sloping`), so a file is followed at once by the files that
it includes, each with its own, and only then by a file that is nested no deeper.
`Included.children` reads the includes of a file back from what follows it, and `Opens` says that
the file was fetched and its includes resolved to these. The main statement is
`expandWith_preorder`.
-/

namespace IncludeTree

/-- The files that a file of a result includes, when `after` follows it: those one level deeper, up
to the next file that is nested no deeper than it. -/
def Included.children (file : Included) (after : List Included) : List Included :=
  (after.takeWhile (file.depth < ·.depth)).filter (·.depth == file.depth + 1)

namespace Context

open ResolveM

variable {ctx : Context} {fetch : Source → Except SourceError Fetched}

/-! ## The order of what waits -/

theorem filter_waitingAt_of_lt {depth depth' : Nat} (h : depth < depth') (sources : List Source) :
    (waitingAt depth' sources).filter (·.depth == depth) = [] := by
  refine List.filter_eq_nil_iff.mpr ?_
  intro p hp
  rw [depth_of_mem_waitingAt hp, beq_iff_eq]
  omega

theorem filter_waitingAt_self (depth : Nat) (sources : List Source) :
    (waitingAt depth sources).filter (·.depth == depth) = waitingAt depth sources := by
  refine List.filter_eq_self.mpr ?_
  intro p hp
  rw [depth_of_mem_waitingAt hp, beq_iff_eq]

/-- What waits at some depth or deeper does so after a turn of the loop. -/
theorem le_depth_step {depth : Nat} {p : Pending} {rest : List Pending}
    (h : ∀ q ∈ p :: rest, depth ≤ q.depth) (sources : List Source) :
    ∀ q ∈ waitingAt (p.depth + 1) sources ++ rest, depth ≤ q.depth := by
  intro q hq
  rcases List.mem_append.mp hq with hq | hq
  · have hp := h p List.mem_cons_self
    rw [depth_of_mem_waitingAt hq]
    omega
  · exact h q (List.mem_cons_of_mem p hq)

/-- Whether files that wait are ordered by depth, deepest first. -/
def Sloping (pending : List Pending) : Prop := pending.Pairwise fun p q => q.depth ≤ p.depth

theorem sloping_waitingAt (depth : Nat) (sources : List Source) :
    Sloping (waitingAt depth sources) := by
  refine List.pairwise_of_forall_mem_list ?_
  intro p hp q hq
  rw [depth_of_mem_waitingAt hp, depth_of_mem_waitingAt hq]

/-- What the first file includes may wait before the rest. -/
theorem Sloping.step {p : Pending} {rest : List Pending} (h : Sloping (p :: rest))
    (sources : List Source) : Sloping (waitingAt (p.depth + 1) sources ++ rest) := by
  obtain ⟨hp, hrest⟩ := List.pairwise_cons.mp h
  refine List.pairwise_append.mpr ⟨sloping_waitingAt _ _, hrest, ?_⟩
  intro q hq q' hq'
  have hle := hp q' hq'
  rw [depth_of_mem_waitingAt hq]
  omega

namespace Drains

variable {pending : List Pending} {s : Session} {calls : List Pending} {r : Ending}
  {files : List Included}

/-- The file that waits first is asked for first. -/
theorem head?_eq (h : ctx.Drains fetch pending s calls r) : calls.head? = pending.head? := by
  cases h <;> rfl

/-- Nothing is found at a smaller depth than what waits. -/
theorem le_depth {depth : Nat} (h : ctx.Drains fetch pending s calls r)
    (hdepth : ∀ p ∈ pending, depth ≤ p.depth) : ∀ c ∈ calls, depth ≤ c.depth := by
  induction h with
  | nil s => exact hdepth
  | refused _ =>
    intro c hc
    obtain rfl := List.mem_singleton.mp hc
    exact hdepth c List.mem_cons_self
  | unread _ _ =>
    intro c hc
    obtain rfl := List.mem_singleton.mp hc
    exact hdepth c List.mem_cons_self
  | step _ _ _ ih =>
    refine List.forall_mem_cons.mpr ⟨hdepth _ List.mem_cons_self, ih ?_⟩
    exact le_depth_step hdepth _

/-- **Depths rise by one at most** from a file that is asked for to the next. -/
theorem isChain (h : ctx.Drains fetch pending s calls r) (hslope : Sloping pending) :
    calls.IsChain fun p q => q.depth ≤ p.depth + 1 := by
  induction h with
  | nil s => exact .nil
  | refused _ => exact .singleton _
  | unread _ _ => exact .singleton _
  | @step p rest s s' fetched sources calls r _ _ hdrains ih =>
    refine List.isChain_cons.mpr ⟨?_, ih (hslope.step sources)⟩
    intro q hq
    rw [hdrains.head?_eq] at hq
    rcases List.mem_append.mp (List.mem_of_mem_head? hq) with hq | hq
    · exact (depth_of_mem_waitingAt hq).le
    · have hle := (List.pairwise_cons.mp hslope).1 q hq
      omega

/-- When all goes well, the files that are asked for at the smallest depth are those that waited at
it. -/
theorem filter_depth_eq {depth : Nat} (h : ctx.Drains fetch pending s calls r)
    (hok : r.1 = .ok files) (hdepth : ∀ p ∈ pending, depth ≤ p.depth) :
    calls.filter (·.depth == depth) = pending.filter (·.depth == depth) := by
  induction h generalizing files with
  | nil s => rfl
  | refused _ => cases hok
  | unread _ _ => cases hok
  | @step p rest s s' fetched sources calls r _ _ _ ih =>
    obtain ⟨later, hlater, -⟩ := Ending.prepend_fst_eq_ok.mp hok
    have hp := hdepth p List.mem_cons_self
    have htail := ih hlater (le_depth_step hdepth sources)
    rw [List.filter_append, filter_waitingAt_of_lt (Nat.lt_succ_of_le hp), List.nil_append]
      at htail
    rw [List.filter_cons, List.filter_cons, htail]

/-- The files at the smallest depth in the result are those that waited at it. -/
theorem map_filter_depth_eq {depth : Nat} (h : ctx.Drains fetch pending s calls r)
    (hok : r.1 = .ok files) (hdepth : ∀ p ∈ pending, depth ≤ p.depth) :
    (files.filter (·.depth == depth)).map Included.pending =
      pending.filter (·.depth == depth) := by
  rw [← h.filter_depth_eq hok hdepth, ← h.pending_eq hok, List.filter_map]
  rfl

/-- A work list is drained part by part when all goes well. -/
theorem exists_of_append {ps qs : List Pending} (h : ctx.Drains fetch (ps ++ qs) s calls r)
    (hok : r.1 = .ok files) :
    ∃ calls₁ files₁ s₁ calls₂ files₂, ctx.Drains fetch ps s calls₁ (.ok files₁, s₁) ∧
      ctx.Drains fetch qs s₁ calls₂ (.ok files₂, r.2) ∧ files = files₁ ++ files₂ := by
  obtain ⟨calls₁, h₁⟩ := ctx.exists_drains fetch ps s
  have hall := h.eq_drainWith
  rw [drainWith_append] at hall
  rcases hps : ctx.drainWith fetch ps s with ⟨e | files₁, s₁⟩
  · rw [hps] at hall
    rw [← hall] at hok
    cases hok
  · rw [hps] at hall h₁
    obtain ⟨calls₂, h₂⟩ := ctx.exists_drains fetch qs s₁
    rw [← hall] at hok ⊢
    obtain ⟨files₂, hfiles₂, rfl⟩ := Ending.prepend_fst_eq_ok.mp hok
    have hend : ctx.drainWith fetch qs s₁ = (.ok files₂, (ctx.drainWith fetch qs s₁).2) :=
      Prod.ext hfiles₂ rfl
    rw [hend] at h₂
    exact ⟨calls₁, files₁, s₁, calls₂, files₂, h₁, h₂, rfl⟩

/-- **The includes of a file can be read back** from what follows it: they come before the next file
that is nested no deeper, and are the files there that are nested one level deeper. -/
theorem children_eq {depth : Nat} {sources : List Source} {rest : List Pending}
    (h : ctx.Drains fetch (waitingAt (depth + 1) sources ++ rest) s calls r)
    (hok : r.1 = .ok files) (hrest : ∀ q ∈ rest, q.depth ≤ depth) :
    ((files.takeWhile (depth < ·.depth)).filter (·.depth == depth + 1)).map Included.source =
      sources := by
  obtain ⟨calls₁, files₁, s₁, calls₂, files₂, h₁, h₂, rfl⟩ := h.exists_of_append hok
  have hwaiting : ∀ p ∈ waitingAt (depth + 1) sources, depth + 1 ≤ p.depth := by
    intro p hp
    rw [depth_of_mem_waitingAt hp]
  have hinside : ∀ f ∈ files₁, decide (depth < f.depth) = true := by
    intro f hf
    have hcall : f.pending ∈ calls₁ := h₁.pending_eq rfl ▸ List.mem_map_of_mem hf
    exact decide_eq_true (h₁.le_depth hwaiting f.pending hcall)
  have houtside : files₂.takeWhile (depth < ·.depth) = [] := by
    cases files₂ with
    | nil => rfl
    | cons f files₂ =>
      have hhead : rest.head? = some f.pending := by
        rw [← h₂.head?_eq, ← h₂.pending_eq rfl]
        rfl
      have hle : f.depth ≤ depth := hrest f.pending (List.mem_of_mem_head? hhead)
      refine List.takeWhile_cons_of_neg ?_
      rw [decide_eq_true_eq]
      omega
  have hfilter := congrArg (List.map Pending.source) (h₁.map_filter_depth_eq rfl hwaiting)
  rw [filter_waitingAt_self, map_source_waitingAt, List.map_map] at hfilter
  rw [List.takeWhile_append_of_pos hinside, houtside, List.append_nil]
  exact hfilter

end Drains

/-! ## What a file includes -/

/-- Whether a file of a result was fetched, and its includes resolved to the sources of `children`
in the scope that came with it, at some time between two sessions. -/
def Opens (ctx : Context) (fetch : Source → Except SourceError Fetched) (s s' : Session)
    (file : Included) (children : List Included) : Prop :=
  ∃ fetched includes s₁ s₂,
    fetch file.source = .ok fetched ∧ file.content = fetched.content ∧
    Include.listOfText file.content = .ok includes ∧
    runOn ((ctx.nested fetched.scope).resolve includes) s₁ =
      (.ok (children.map Included.source), s₂) ∧
    (∀ child ∈ children, child.source.origin.scope = fetched.scope) ∧
    s.ledger.entries <+: s₁.ledger.entries ∧ s₂.ledger.entries <+: s'.ledger.entries

theorem Opens.mono_left {s s₁ s' : Session} {file : Included} {children : List Included}
    (h : ctx.Opens fetch s₁ s' file children) (hs : s.ledger.entries <+: s₁.ledger.entries) :
    ctx.Opens fetch s s' file children := by
  obtain ⟨fetched, includes, s₂, s₃, hfetch, hcontent, hread, hresolve, hscope, hle, hle'⟩ := h
  exact ⟨fetched, includes, s₂, s₃, hfetch, hcontent, hread, hresolve, hscope, hs.trans hle, hle'⟩

/-- The file that is fetched first is opened, and what it includes are its children. -/
theorem opens_of_nested {p : Pending} {fetched : Fetched} {children : List Included}
    {s s' s'' : Session} (hfetch : fetch p.source = .ok fetched)
    (hnested : runOn (ctx.nestedSources p fetched) (s.ask p) =
      (.ok (children.map Included.source), s'))
    (hs : s'.ledger.entries <+: s''.ledger.entries) :
    ctx.Opens fetch s s'' (p.file fetched) children := by
  have hscope := (grows_nestedSources hnested).2
  obtain ⟨includes, hread, hresolve⟩ := exists_resolve_of_nestedSources hnested
  refine ⟨fetched, includes, _, s', hfetch, rfl, hread, hresolve, ?_, List.prefix_rfl, hs⟩
  intro child hchild
  exact hscope child.source (List.mem_map_of_mem hchild)

/-- **Every file of the result was opened** between the start and the end, and the files that it
includes are its children. -/
theorem Drains.opens {pending : List Pending} {s : Session} {calls : List Pending} {r : Ending}
    {files before after : List Included} {file : Included}
    (h : ctx.Drains fetch pending s calls r) (hok : r.1 = .ok files) (hslope : Sloping pending)
    (hsplit : files = before ++ file :: after) :
    ctx.Opens fetch s r.2 file (file.children after) := by
  induction h generalizing files before with
  | nil s =>
    obtain rfl := Except.ok.inj hok
    simp at hsplit
  | refused _ => cases hok
  | unread _ _ => cases hok
  | @step p rest s s' fetched sources calls r hfetch hnested hdrains ih =>
    obtain ⟨later, hlater, rfl⟩ := Ending.prepend_fst_eq_ok.mp hok
    obtain ⟨added, lost, hgrows, -⟩ := hdrains.exists_balance
    cases before with
    | nil =>
      obtain ⟨rfl, rfl⟩ := List.cons.inj hsplit
      have hchildren := hdrains.children_eq hlater (List.pairwise_cons.mp hslope).1
      refine opens_of_nested hfetch ?_ hgrows.entries_isPrefix
      rw [hnested]
      exact congrArg (fun sources => (Except.ok sources, s')) hchildren.symm
    | cons b before =>
      obtain ⟨-, hsplit⟩ := List.cons.inj hsplit
      refine (ih hlater (hslope.step sources) hsplit).mono_left ?_
      exact (grows_nestedSources hnested).1.entries_isPrefix

/-! ## The whole result -/

/-- **The result of an expansion is its tree of files in pre-order.** Its files come from the
includes that were recorded, each once; it starts at depth zero and rises by one level at most; the
files at depth zero are those that the includes are resolved to; and every file has the content that
was fetched for it and is followed by the files that its own includes are resolved to, in the scope
that came with it, one level deeper. -/
theorem expandWith_preorder {includes : List Include} {s s' : Session} {files : List Included}
    (h : ctx.expandWith fetch includes s = (.ok files, s')) :
    (∃ added, s'.ledger.entries = s.ledger.entries ++ added ∧ added.Nodup ∧
      (files.map fun file => file.source.entry).Perm added) ∧
    ((∀ file ∈ files.head?, file.depth = 0) ∧
      files.IsChain fun file next => next.depth ≤ file.depth + 1) ∧
    (∃ s₁, runOn (ctx.resolve includes) s =
      (.ok ((files.filter (·.depth == 0)).map Included.source), s₁)) ∧
    ∀ before file after, files = before ++ file :: after →
      ctx.Opens fetch s s' file (file.children after) := by
  obtain ⟨calls, hexpands⟩ := ctx.exists_expands fetch includes s
  rw [h] at hexpands
  have hcalls := hexpands.pending_eq rfl
  obtain ⟨added, lost, hadded, hperm, hlost⟩ := hexpands.exists_balance
  obtain rfl := hlost files rfl
  rw [List.append_nil, ← hcalls, List.map_map] at hperm
  refine ⟨⟨added, hadded.entries_eq, hadded.nodup, hperm⟩, ?_⟩
  cases hexpands with
  | @resolved sources s₁ _ _ hresolve hdrains =>
    have hslope := sloping_waitingAt 0 sources
    refine ⟨⟨?_, ?_⟩, ⟨s₁, ?_⟩, ?_⟩
    · intro file hfile
      have hhead := hdrains.head?_eq
      rw [← hcalls, List.head?_map, Option.mem_def.mp hfile] at hhead
      exact depth_of_mem_waitingAt (List.mem_of_mem_head? hhead.symm)
    · have hchain := hdrains.isChain hslope
      rwa [← hcalls, List.isChain_map] at hchain
    · have hstart := hdrains.map_filter_depth_eq rfl fun p _ => Nat.zero_le p.depth
      have hsources := congrArg (List.map Pending.source) hstart
      rw [filter_waitingAt_self, map_source_waitingAt, List.map_map] at hsources
      rw [hresolve]
      exact congrArg (fun sources => (Except.ok sources, s₁)) hsources.symm
    · intro before file after hsplit
      have hopens := hdrains.opens rfl hslope hsplit
      exact hopens.mono_left (grows_resolve hresolve).1.entries_isPrefix

/-- The source of an include that gives the path of a file of its own project. -/
def localSource (scope : Scope) (path : String) : Source where
  target := .localFile path
  origin := { directive := { localPath := some path }, scope }

/-- A file that includes another. -/
def outerFile : Included where
  source := localSource ⟨"group/app", "main"⟩ "outer.kdl"
  content := "include local=\"inner.kdl\""
  depth := 0

/-- The file that it includes, of another project. -/
def innerFile : Included where
  source := localSource ⟨"group/lib", "v1"⟩ "inner.kdl"
  content := ""
  depth := 1

/-- A file after both. -/
def nextFile : Included where
  source := localSource ⟨"group/app", "main"⟩ "next.kdl"
  content := ""
  depth := 0

/-- The fetcher that has these files; what they include is looked up in the other project. -/
def fetchSample (source : Source) : Except SourceError Fetched :=
  match [outerFile, innerFile, nextFile].find? (·.source == source) with
  | some file => .ok { content := file.content, scope := ⟨"group/lib", "v1"⟩ }
  | none => .error (.notFound source.display)

/-- The inner file stands between the file that includes it and the next one. -/
theorem expandWith_preorder_sample :
    ∃ s', expandWith { scope := ⟨"group/app", "main"⟩ } fetchSample
          [.path "outer.kdl", .path "next.kdl"] {} =
        (.ok [outerFile, innerFile, nextFile], s') ∧
      (∃ s₁, runOn (resolve { scope := ⟨"group/app", "main"⟩ }
          [.path "outer.kdl", .path "next.kdl"]) {} =
        (.ok [outerFile.source, nextFile.source], s₁)) ∧
      Opens { scope := ⟨"group/app", "main"⟩ } fetchSample {} s' outerFile [innerFile] := by
  have hfiles : (expandWith { scope := ⟨"group/app", "main"⟩ } fetchSample
      [.path "outer.kdl", .path "next.kdl"] {}).1.toOption =
        some [outerFile, innerFile, nextFile] := by
    decide +kernel
  rcases h : expandWith { scope := ⟨"group/app", "main"⟩ } fetchSample
      [.path "outer.kdl", .path "next.kdl"] {} with ⟨e | files, s'⟩
  · rw [h] at hfiles
    cases hfiles
  · rw [h] at hfiles
    obtain rfl := Option.some.inj hfiles
    obtain ⟨-, -, htop, hopens⟩ := expandWith_preorder h
    exact ⟨s', rfl, htop, hopens [] outerFile [innerFile, nextFile] rfl⟩

end Context

end IncludeTree
