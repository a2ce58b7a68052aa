import IncludeTree.Proofs.Resolution.Entries
import IncludeTree.Proofs.Source.Kinds

/-!
# What the sources of a resolution come from

All directives are recorded before the first of them is classified, and still the sources that a
resolution returns and the entries that it adds go together one for one, in the same order:
`resolve_attributes_sources` says that each source is what its own entry is classified as.

As an entry is a whole directive, a resolution returns no two sources with one directive, but it may
return two with one target. `resolve_distinguishes_sources` says where these differ: in what their
kind does not read, or in how a URL is spelled.
-/

namespace IncludeTree.Context

open ResolveM

variable {ctx : Context} {includes : List Include} {s s' : Session} {sources : List Source}

/-! ## Sources and entries -/

/-- A source is what the directive that it comes from is classified as. -/
theorem sourceOf_origin_of_mapM {ds : List Directive} (h : ds.mapM ctx.sourceOf = .ok sources) :
    ∀ source ∈ sources, ctx.sourceOf source.origin.directive = .ok source := by
  intro source hmem
  have hok : Except.ok source ∈ ds.map ctx.sourceOf := mapM_eq_ok.mp h ▸ List.mem_map_of_mem hmem
  obtain ⟨d, -, hd⟩ := List.mem_map.mp hok
  rwa [sourceOf_origin hd]

theorem sourceOf_origin_of_resolve (h : runOn (ctx.resolve includes) s = (.ok sources, s')) :
    ∀ source ∈ sources, ctx.sourceOf source.origin.directive = .ok source := by
  obtain ⟨ds, -, -, hsources⟩ := resolution_eq_ok.mp (exists_runOn_resolve_iff.mp ⟨s', h, rfl⟩)
  exact sourceOf_origin_of_mapM hsources

theorem targets_of_sourceOf {d : Directive} {source : Source} (h : ctx.sourceOf d = .ok source) :
    d.targets = [source.target] := by
  unfold sourceOf at h
  split at h
  · next hclass =>
    obtain rfl := Except.ok.inj h
    exact (Directive.classify?_iff.mp hclass).1
  · cases h

/-- In the scope of the context an entry is the directive. -/
theorem map_entry_eq (h : ∀ source ∈ sources, source.origin.scope = ctx.scope) :
    sources.map Source.entry = sources.map fun source => ctx.entry source.origin.directive :=
  List.map_congr_left fun source hmem => by simp [Source.entry, Origin.entry, entry, h source hmem]

/-- The sources of a resolution come from directives that differ from each other. -/
theorem nodup_directives (h : runOn (ctx.resolve includes) s = (.ok sources, s')) :
    (sources.map fun source => source.origin.directive).Nodup := by
  obtain ⟨hgrows, hscope⟩ := grows_resolve h
  have hnodup := hgrows.nodup
  rw [map_entry_eq hscope] at hnodup
  refine List.Nodup.of_map ctx.entry ?_
  rwa [List.map_map]

/-- **Sources and entries go together.** A resolution that succeeds leaves the ledger as it was,
followed by one new entry for each source, in the order of the sources: the directive that the
source comes from, in the scope of the context. No two of these are the same, and each source is
found again from its directive alone: by what the directive can be read as, and by classifying it in
any session. -/
theorem resolve_attributes_sources (h : runOn (ctx.resolve includes) s = (.ok sources, s')) :
    s'.ledger = s.ledger.append
        (sources.map fun source => { directive := source.origin.directive, scope := ctx.scope }) ∧
      (sources.map fun source => source.origin.directive).Nodup ∧
      ∀ source ∈ sources,
        source.origin.scope = ctx.scope ∧
        { directive := source.origin.directive, scope := ctx.scope } ∉ s.ledger.entries ∧
        source.origin.directive.targets = [source.target] ∧
        ∀ t : Session, (runOn (ctx.select source.origin.directive) t).1 = .ok source := by
  obtain ⟨hgrows, hscope⟩ := grows_resolve h
  rw [map_entry_eq hscope] at hgrows
  refine ⟨hgrows.2, nodup_directives h, fun source hmem => ?_⟩
  have hsource := sourceOf_origin_of_resolve h source hmem
  refine ⟨hscope source hmem, ?_, targets_of_sourceOf hsource, fun t => ?_⟩
  · exact hgrows.fresh _ (List.mem_map_of_mem hmem)
  · rw [(ctx.settles_select source.origin.directive t).1]
    exact hsource

/-- A context without variables and without files. -/
def bareScope : Context where
  scope := ⟨"group/app", "main"⟩

/-- A file of another project, included from that context. -/
def libraryFile (path : String) : Source where
  target := .projectFile "group/lib" path none
  origin :=
    { directive := { project := some "group/lib", file := some (.one path) }
      scope := bareScope.scope }

/-- Two files of a project and a path, in a session that has an entry: three entries follow it. -/
theorem resolve_attributes_sources_bareScope : ∃ s',
    runOn (bareScope.resolve
        [.directive (.ofProject "group/lib" ["x.yml", "y.yml"]), .path "a.yml"])
      { ledger := { entries := [bareScope.entry (.ofLocal "b.yml")] } } =
        (.ok [libraryFile "x.yml", libraryFile "y.yml", .ofLocal bareScope.scope "a.yml"], s') ∧
    s'.ledger.entries =
      [bareScope.entry (.ofLocal "b.yml"), (libraryFile "x.yml").entry, (libraryFile "y.yml").entry,
        bareScope.entry (.ofLocal "a.yml")] ∧
    ∀ t : Session, (runOn (bareScope.select (libraryFile "y.yml").origin.directive) t).1 =
      .ok (libraryFile "y.yml") := by
  have hout : (runOn (bareScope.resolve
      [.directive (.ofProject "group/lib" ["x.yml", "y.yml"]), .path "a.yml"])
      { ledger := { entries := [bareScope.entry (.ofLocal "b.yml")] } }).1.toOption =
        some [libraryFile "x.yml", libraryFile "y.yml", .ofLocal bareScope.scope "a.yml"] := by
    decide +kernel
  have hrun := runOn_resolve_of_toOption hout
  obtain ⟨hledger, -, hsources⟩ := resolve_attributes_sources hrun
  refine ⟨_, hrun, ?_, (hsources (libraryFile "y.yml") (by simp)).2.2.2⟩
  rw [hledger]
  rfl

/-! ## Sources with one target -/

/-- **Sources with one target differ elsewhere.** When a resolution returns two sources with one
target, the directives that they come from differ in a field that the kind of the target does not
read, or they spell one URL in two ways. So directives that give nothing but a target, as bare texts
and the matches of wildcards do, lead to no file twice, unless by two spellings of a URL. -/
theorem resolve_distinguishes_sources (h : runOn (ctx.resolve includes) s = (.ok sources, s')) :
    sources.Pairwise fun a b => a.target = b.target →
      a.origin.directive.unread a.kind ≠ b.origin.directive.unread b.kind ∨
        a.kind = .remote ∧ a.origin.directive.remote ≠ b.origin.directive.remote := by
  have hdenotes : ∀ source ∈ sources, source.origin.directive.Denotes source.target := by
    intro source hmem
    rw [← Directive.mem_targets, targets_of_sourceOf (sourceOf_origin_of_resolve h source hmem)]
    exact List.mem_singleton.mpr rfl
  have hdistinct := List.pairwise_map.mp (nodup_directives h)
  refine hdistinct.imp_of_mem fun {a b} ha hb hne htarget => ?_
  have hkind : b.kind = a.kind := congrArg Target.kind htarget.symm
  by_contra hsame
  rw [not_or, not_not, not_and, not_not, hkind] at hsame
  exact hne ((hdenotes a ha).eq_of_unread_eq (htarget ▸ hdenotes b hb) hsame.1 hsame.2)

/-- A directive for a path whose rules always keep it. -/
def alwaysKept (path : String) : Directive :=
  { localPath := some path, rules := some [{ when := some .always }] }

/-- The same path with rules and without them leads to one file twice. -/
theorem file_not_included_once :
    (runOn (bareScope.resolve [.path "a.yml", .directive (alwaysKept "a.yml")])
        {}).1.toOption.map (List.map Source.target) =
          some [.localFile "a.yml", .localFile "a.yml"] ∧
      ¬ [Target.localFile "a.yml", .localFile "a.yml"].Nodup := by
  decide +kernel

/-- One file under different rules, and one URL with and without the port that is its own anyway. -/
theorem resolve_distinguishes_sources_bareScope :
    (∃ s', runOn (bareScope.resolve [.path "a.yml", .directive (alwaysKept "a.yml")]) {} =
        (.ok [.ofLocal bareScope.scope "a.yml",
          { target := .localFile "a.yml"
            origin := { directive := alwaysKept "a.yml", scope := bareScope.scope } }], s') ∧
      (Directive.ofLocal "a.yml").unread .localFile ≠ (alwaysKept "a.yml").unread .localFile) ∧
    ∃ url s', runOn (bareScope.resolve
        [.path "https://[::1]/a.yml", .path "https://[::1]:443/a.yml"]) {} =
          (.ok [.ofRemote bareScope.scope "https://[::1]/a.yml" url,
            .ofRemote bareScope.scope "https://[::1]:443/a.yml" url], s') ∧
      (Directive.ofRemote "https://[::1]/a.yml").remote ≠
        (Directive.ofRemote "https://[::1]:443/a.yml").remote := by
  constructor
  · have hout : (runOn (bareScope.resolve [.path "a.yml", .directive (alwaysKept "a.yml")])
        {}).1.toOption =
          some [.ofLocal bareScope.scope "a.yml",
            { target := .localFile "a.yml"
              origin := { directive := alwaysKept "a.yml", scope := bareScope.scope } }] := by
      decide +kernel
    have hrun := runOn_resolve_of_toOption hout
    have hpair := List.pairwise_pair.mp (resolve_distinguishes_sources hrun) rfl
    exact ⟨_, hrun, hpair.resolve_right fun hremote => by cases hremote.1⟩
  · have hout : (runOn (bareScope.resolve
        [.path "https://[::1]/a.yml", .path "https://[::1]:443/a.yml"]) {}).1.toOption =
          (Url.parse? "https://[::1]/a.yml").map fun url =>
            [.ofRemote bareScope.scope "https://[::1]/a.yml" url,
              .ofRemote bareScope.scope "https://[::1]:443/a.yml" url] := by
      decide +kernel
    obtain ⟨url, hurl⟩ : ∃ url, Url.parse? "https://[::1]/a.yml" = some url :=
      Option.isSome_iff_exists.mp (by decide +kernel)
    rw [hurl] at hout
    have hrun := runOn_resolve_of_toOption hout
    have hpair := List.pairwise_pair.mp (resolve_distinguishes_sources hrun) rfl
    exact ⟨url, _, hrun, (hpair.resolve_left fun hunread => hunread rfl).2⟩

end IncludeTree.Context
