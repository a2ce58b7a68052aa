import IncludeTree.Directive.Kdl
import IncludeTree.Resolution

/-!
# Expanding includes

`Context.expand` resolves a list of includes, fetches each source, reads the includes of its
content, and expands those in turn, in the scope that came with the content. A file stands before
the files that it includes, and those before the next file of its own list. The fetcher may be any
computation; the expansion ends for every fetcher, because a file is fetched only once it has been
recorded and the ledger does not grow beyond its limit: `drain` does one step for each unit of room
and each file that waits.
-/

namespace IncludeTree

/-- What fetching a source gives. -/
structure Fetched where
  /-- The content of the file. -/
  content : String
  /-- The scope in which its includes are looked up. -/
  scope : Scope
deriving DecidableEq, Repr

/-- A file that was included. -/
structure Included where
  /-- Where it is found. -/
  source : Source
  /-- Its content. -/
  content : String
  /-- The number of files that it is nested in. -/
  depth : Nat
deriving DecidableEq, Repr

/-- A source whose content has yet to be fetched. -/
structure Pending where
  /-- Where the file is found. -/
  source : Source
  /-- The number of files that it is nested in. -/
  depth : Nat
deriving DecidableEq, Repr

namespace Context

open ResolveM

/-- The sources that a fetched file includes. -/
def nestedSources (ctx : Context) (p : Pending) (fetched : Fetched) : ResolveM (List Source) :=
  match Include.listOfText fetched.content with
  | .error e => throw e
  | .ok includes => do
    note (.included p.source p.depth includes.length)
    (ctx.nested fetched.scope).resolve includes

theorem room_nestedSources {ctx : Context} {p : Pending} {fetched : Fetched}
    {sources : List Source} {s s' : Session}
    (h : runOn (ctx.nestedSources p fetched) s = (.ok sources, s')) :
    s'.ledger.room + sources.length = s.ledger.room := by
  unfold nestedSources at h
  split at h
  · simp at h
  · rw [runOn_bind, runOn_note] at h
    simp only at h
    have := room_resolve h
    rwa [Session.add_ledger] at this

/-- Fetches the files that wait, first to last, and what they include before the rest. -/
def drain {m : Type → Type} [Monad m] (ctx : Context)
    (fetch : Source → m (Except SourceError Fetched)) (pending : List Pending) (s : Session) :
    m (Except ResolveError (List Included) × Session) :=
  match pending with
  | [] => pure (.ok [], s)
  | p :: rest => do
    match ← fetch p.source with
    | .error e => return (.error (.fetch p.source.display e), s.add (.fetching p.source p.depth))
    | .ok fetched =>
      match _h : runOn (ctx.nestedSources p fetched) (s.add (.fetching p.source p.depth)) with
      | (.error e, s') => return (.error e, s')
      | (.ok sources, s') => do
        let waiting := sources.map fun source => { source, depth := p.depth + 1 }
        let (files, s'') ← drain ctx fetch (waiting ++ rest) s'
        let file : Included := { source := p.source, content := fetched.content, depth := p.depth }
        return (files.map (file :: ·), s'')
termination_by s.ledger.room + pending.length
decreasing_by
  have := room_nestedSources _h
  simp only [Session.add_ledger] at this
  simp only [List.length_append, List.length_map, List.length_cons]
  omega

@[simp] theorem drain_nil {m : Type → Type} [Monad m] (ctx : Context)
    (fetch : Source → m (Except SourceError Fetched)) (s : Session) :
    drain ctx fetch [] s = pure (.ok [], s) := by
  rw [drain]

theorem drain_cons {m : Type → Type} [Monad m] (ctx : Context)
    (fetch : Source → m (Except SourceError Fetched)) (p : Pending) (rest : List Pending)
    (s : Session) :
    drain ctx fetch (p :: rest) s = (do
      match ← fetch p.source with
      | .error e => return (.error (.fetch p.source.display e), s.add (.fetching p.source p.depth))
      | .ok fetched =>
        match runOn (ctx.nestedSources p fetched) (s.add (.fetching p.source p.depth)) with
        | (.error e, s') => return (.error e, s')
        | (.ok sources, s') => do
          let waiting := sources.map fun source => { source, depth := p.depth + 1 }
          let (files, s'') ← drain ctx fetch (waiting ++ rest) s'
          let file : Included :=
            { source := p.source, content := fetched.content, depth := p.depth }
          return (files.map (file :: ·), s'')) := by
  rw [drain]
  refine congrArg _ (funext fun r => ?_)
  cases r with
  | error e => rfl
  | ok fetched =>
    dsimp only
    split <;> rename_i h <;> simp only [h]

/-- The files that a list of includes stands for, with what these include. -/
def expand {m : Type → Type} [Monad m] (ctx : Context)
    (fetch : Source → m (Except SourceError Fetched)) (includes : List Include) (s : Session) :
    m (Except ResolveError (List Included) × Session) :=
  match runOn (ctx.resolve includes) s with
  | (.error e, s') => pure (.error e, s')
  | (.ok sources, s') => drain ctx fetch (sources.map fun source => { source, depth := 0 }) s'

end Context

end IncludeTree
