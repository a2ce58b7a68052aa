import IncludeTree.Proofs.Resolution.Entries
import IncludeTree.Proofs.Source.Classification

/-!
# Resolutions in different scopes

A resolution knows of those before it by the ledger alone, and of the ledger it asks nothing but
that it admits what is to be recorded (`exists_resolve_of_admits`). Whether a ledger admits entries
does not depend on their order (`Ledger.admits_of_perm`), so two resolutions that succeed one after
the other succeed in the other order as well. In different scopes they have no entry in common,
whatever they include, and then they leave each other nothing but less room:
`resolutions_commute` says both.
-/

namespace IncludeTree

/-- A ledger that admits entries admits them in any order. -/
theorem Ledger.admits_of_perm {l : Ledger} {es es' : List Entry} (h : es.Perm es')
    (hadm : l.Admits es) : l.Admits es' := by
  obtain ⟨hnodup, hfresh, hroom⟩ := (admits_iff l es).mp hadm
  refine (admits_iff l es').mpr ⟨h.nodup_iff.mp hnodup, fun e he => ?_, h.length_eq ▸ hroom⟩
  exact hfresh e (h.mem_iff.mpr he)

/-- Entries that a ledger admits in two lists it admits together, if the lists have none in common
and there is room for both. -/
theorem Ledger.admits_append_of_disjoint {l : Ledger} {es es' : List Entry} (h : l.Admits es)
    (h' : l.Admits es') (hdisjoint : es.Disjoint es') (hroom : es.length + es'.length ≤ l.room) :
    l.Admits (es ++ es') := by
  obtain ⟨hnodup, hfresh, -⟩ := (admits_iff l es).mp h
  obtain ⟨hnodup', hfresh', -⟩ := (admits_iff l es').mp h'
  refine (admits_iff l _).mpr ⟨List.Nodup.append hnodup hnodup' hdisjoint, ?_, ?_⟩
  · intro e he
    exact (List.mem_append.mp he).elim (hfresh e) (hfresh' e)
  · rwa [List.length_append]

namespace Context

open ResolveM

variable {ctx ctx' : Context} {includes xs ys : List Include} {sources fx fy : List Source}
  {s t : Session} {l : Ledger}

/-- **A resolution asks nothing of the past but room for new entries.** One that succeeds in a
session succeeds with the same sources in any other whose ledger admits their entries. -/
theorem exists_resolve_of_admits {s' : Session}
    (h : runOn (ctx.resolve includes) s = (.ok sources, s'))
    (hadm : t.ledger.Admits (sources.map Source.entry)) :
    ∃ t', runOn (ctx.resolve includes) t = (.ok sources, t') ∧
      t'.ledger = t.ledger.append (sources.map Source.entry) := by
  obtain ⟨ds, hplan, hgrows, hsources⟩ :=
    resolution_eq_ok.mp (exists_runOn_resolve_iff.mp ⟨s', h, rfl⟩)
  -- The entries of the sources are those of the directives, as both are what the ledger got.
  have hentries : ds.map ctx.entry = sources.map Source.entry :=
    List.append_cancel_left (hgrows.entries_eq.symm.trans (grows_resolve h).1.entries_eq)
  refine exists_runOn_resolve_iff.mpr (resolution_eq_ok.mpr ⟨ds, hplan, ?_, hsources⟩)
  rw [hentries]
  exact ⟨hadm, rfl⟩

/-- In a session a list of includes resolves in one context, and then another list in another
context; `l` is the ledger by then. -/
def ResolveInTurn (s : Session) (ctx : Context) (xs : List Include) (fx : List Source)
    (ctx' : Context) (ys : List Include) (fy : List Source) (l : Ledger) : Prop :=
  ∃ s₁ s₂, runOn (ctx.resolve xs) s = (.ok fx, s₁) ∧ runOn (ctx'.resolve ys) s₁ = (.ok fy, s₂) ∧
    s₂.ledger = l

/-- Two lists that resolve in turn add the entries of the one and then those of the other. -/
theorem ResolveInTurn.grows (h : ResolveInTurn s ctx xs fx ctx' ys fy l) :
    s.ledger.Grows l (fx.map Source.entry ++ fy.map Source.entry) := by
  obtain ⟨s₁, s₂, hx, hy, rfl⟩ := h
  exact (grows_resolve hx).1.trans (grows_resolve hy).1

/-- Two lists that resolve somewhere resolve in turn wherever the ledger admits the entries of
both. -/
theorem resolveInTurn_of_admits {t' u u' : Session}
    (hx : runOn (ctx.resolve xs) t = (.ok fx, t')) (hy : runOn (ctx'.resolve ys) u = (.ok fy, u'))
    (hadm : s.ledger.Admits (fx.map Source.entry ++ fy.map Source.entry)) :
    ResolveInTurn s ctx xs fx ctx' ys fy
      (s.ledger.append (fx.map Source.entry ++ fy.map Source.entry)) := by
  obtain ⟨hadm₁, hadm₂⟩ := (Ledger.admits_append _ _ _).mp hadm
  obtain ⟨s₁, hx₁, hledger₁⟩ := exists_resolve_of_admits hx hadm₁
  rw [← hledger₁] at hadm₂
  obtain ⟨s₂, hy₂, hledger₂⟩ := exists_resolve_of_admits hy hadm₂
  exact ⟨s₁, s₂, hx₁, hy₂, by rw [hledger₂, hledger₁, Ledger.append_append]⟩

/-- Two lists that resolve in turn resolve in the other order, with the same sources. -/
theorem ResolveInTurn.swap (h : ResolveInTurn s ctx xs fx ctx' ys fy l) :
    ResolveInTurn s ctx' ys fy ctx xs fx
      (s.ledger.append (fy.map Source.entry ++ fx.map Source.entry)) := by
  have hadm := Ledger.admits_of_perm List.perm_append_comm h.grows.1
  obtain ⟨_, _, hx, hy, -⟩ := h
  exact resolveInTurn_of_admits hy hx hadm

/-- Sources that are resolved in different scopes have no entry in common. -/
theorem disjoint_entries (hne : ctx.scope ≠ ctx'.scope)
    (hx : ∀ source ∈ fx, source.origin.scope = ctx.scope)
    (hy : ∀ source ∈ fy, source.origin.scope = ctx'.scope) :
    (fx.map Source.entry).Disjoint (fy.map Source.entry) := by
  intro e hex hey
  obtain ⟨f, hf, rfl⟩ := List.mem_map.mp hex
  obtain ⟨f', hf', heq⟩ := List.mem_map.mp hey
  have hscope : f'.origin.scope = f.origin.scope := congrArg Ledger.Entry.scope heq
  rw [hx f hf, hy f' hf'] at hscope
  exact hne hscope.symm

/-- **Resolutions in different scopes commute.** When two lists of includes resolve one after the
other, each in a scope of its own, they resolve in the other order to the same sources, and the
ledgers that they leave have the same entries: those of before and then those of the two lists, in
the order of the resolutions. And they do resolve one after the other just when each does by itself
and there is room for the sources of both. -/
theorem resolutions_commute (ctx : Context) {a b : Scope} (hne : a ≠ b) (xs ys : List Include)
    (s : Session) (fx fy : List Source) :
    (∀ l, ResolveInTurn s (ctx.nested a) xs fx (ctx.nested b) ys fy l →
      l = s.ledger.append (fx.map Source.entry ++ fy.map Source.entry) ∧
      ∃ l', ResolveInTurn s (ctx.nested b) ys fy (ctx.nested a) xs fx l' ∧
        l' = s.ledger.append (fy.map Source.entry ++ fx.map Source.entry) ∧
        l'.entries.Perm l.entries) ∧
    ((∃ l, ResolveInTurn s (ctx.nested a) xs fx (ctx.nested b) ys fy l) ↔
      (runOn ((ctx.nested a).resolve xs) s).1 = .ok fx ∧
      (runOn ((ctx.nested b).resolve ys) s).1 = .ok fy ∧
      fx.length + fy.length ≤ s.ledger.room) := by
  refine ⟨fun l hturn => ?_, ?_, ?_⟩
  · obtain rfl := hturn.grows.2
    refine ⟨rfl, _, hturn.swap, rfl, ?_⟩
    exact List.Perm.append_left _ List.perm_append_comm
  · rintro ⟨l, hturn⟩
    have hlen := hturn.grows.length_le
    rw [List.length_append, List.length_map, List.length_map] at hlen
    obtain ⟨_, _, hy, -, -⟩ := hturn.swap
    obtain ⟨_, _, hx, -, -⟩ := hturn
    exact ⟨congrArg Prod.fst hx, congrArg Prod.fst hy, hlen⟩
  · rintro ⟨hx, hy, hroom⟩
    have hx' : runOn ((ctx.nested a).resolve xs) s = (.ok fx, _) := Prod.ext hx rfl
    have hy' : runOn ((ctx.nested b).resolve ys) s = (.ok fy, _) := Prod.ext hy rfl
    obtain ⟨hgrows, hscope⟩ := grows_resolve hx'
    obtain ⟨hgrows', hscope'⟩ := grows_resolve hy'
    have hdisjoint : (fx.map Source.entry).Disjoint (fy.map Source.entry) :=
      disjoint_entries hne hscope hscope'
    exact ⟨_, resolveInTurn_of_admits hx' hy'
      (Ledger.admits_append_of_disjoint hgrows.1 hgrows'.1 hdisjoint (by simpa using hroom))⟩

/-- A project that includes a file, and another project that includes its own file of that name and
a second one. The ledgers of the two orders differ, in nothing but the order of their entries. -/
theorem resolutions_commute_twoProjects :
    let app : Scope := ⟨"group/app", "main"⟩
    let lib : Scope := ⟨"group/lib", "main"⟩
    let ctx : Context := { scope := app }
    ∃ l l' : Ledger, app ≠ lib ∧
      ResolveInTurn {} (ctx.nested app) [.path "a.yml"] [.ofLocal app "a.yml"]
        (ctx.nested lib) [.path "a.yml", .path "b.yml"]
        [.ofLocal lib "a.yml", .ofLocal lib "b.yml"] l ∧
      ResolveInTurn {} (ctx.nested lib) [.path "a.yml", .path "b.yml"]
        [.ofLocal lib "a.yml", .ofLocal lib "b.yml"]
        (ctx.nested app) [.path "a.yml"] [.ofLocal app "a.yml"] l' ∧
      l'.entries.Perm l.entries ∧ l' ≠ l := by
  intro app lib ctx
  have hne : app ≠ lib := by decide
  have happ : (runOn ((ctx.nested app).resolve [.path "a.yml"]) {}).1.toOption =
      some [.ofLocal app "a.yml"] := by
    decide +kernel
  have hlib : (runOn ((ctx.nested lib).resolve [.path "a.yml", .path "b.yml"]) {}).1.toOption =
      some [.ofLocal lib "a.yml", .ofLocal lib "b.yml"] := by
    decide +kernel
  obtain ⟨hswap, hiff⟩ := resolutions_commute ctx hne [.path "a.yml"]
    [.path "a.yml", .path "b.yml"] {} [.ofLocal app "a.yml"]
    [.ofLocal lib "a.yml", .ofLocal lib "b.yml"]
  obtain ⟨l, hturn⟩ := hiff.mpr ⟨congrArg Prod.fst (runOn_resolve_of_toOption happ),
    congrArg Prod.fst (runOn_resolve_of_toOption hlib), by decide⟩
  obtain ⟨rfl, l', hturn', rfl, hperm⟩ := hswap l hturn
  exact ⟨_, _, hne, hturn, hturn', hperm, by decide⟩

end Context

end IncludeTree
