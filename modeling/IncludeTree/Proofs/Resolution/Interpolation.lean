import IncludeTree.Proofs.Repository.Order
import IncludeTree.Proofs.Resolution.Entries
import IncludeTree.Proofs.Resolution.Failure
import IncludeTree.Proofs.Source.Kinds
import IncludeTree.Proofs.Variables.Expansion

/-!
# What the variables are put in

Variables are put in every directive right before it is recorded, wherever the directive comes from.
So a bare text goes through them twice, as it has been through them when it was brought into record
form (`resolve_path`), and so does the name of a file that a wildcard has found, though nobody wrote
it (`resolve_wildcard`). Only what holds no placeholder by then stays as it is.
-/

namespace IncludeTree.Context

open ResolveM

variable {ctx : Context}

/-! ## One directive -/

theorem sourceOf_ofLocal (path : String) :
    ctx.sourceOf (.ofLocal path) =
      if Text.isBlankText path then .error (.ambiguous (.ofLocal path))
      else .ok (.ofLocal ctx.scope path) := by
  unfold sourceOf
  rw [Directive.classify?_ofLocal]
  cases Text.isBlankText path <;> rfl

theorem sourceOf_ofRemote (text : String) :
    ctx.sourceOf (.ofRemote text) =
      match Url.parse? text with
      | some url => .ok (.ofRemote ctx.scope text url)
      | none => .error (.ambiguous (.ofRemote text)) := by
  unfold sourceOf
  rw [Directive.classify?_ofRemote]
  cases Url.parse? text <;> rfl

/-- A list of includes that comes to a single new directive has its source. -/
theorem resolution_of_plan_singleton {includes : List Include} {d : Directive} {l : Ledger}
    (hplan : ctx.plan includes = .ok [d]) (hroom : l.size < l.limit)
    (hnew : ctx.entry d ∉ l.entries) :
    ctx.resolution includes l =
      ((ctx.sourceOf d).map fun source => [source], l.append [ctx.entry d]) := by
  rw [resolution_of_admits hplan ⟨hroom, hnew, trivial⟩, List.mapM_cons, List.mapM_nil]
  cases ctx.sourceOf d <;> rfl

/-- A lone directive that no rules guard and that is no wildcard is recorded with the variables put
in, once for each file that it names. -/
theorem plan_of_no_star {d : Directive} (hrules : d.rules = none)
    (hstar : ∀ path ∈ d.localPath, '*' ∉ path.toList) :
    ctx.plan [.directive d] = .ok (d.interpolate ctx.vars).fanOut := by
  have hform : ctx.recordForm (.directive d) = d := rfl
  have hsearched : ∀ part ∈ d.fanOut, ctx.searched part = .ok [part] := by
    intro part hpart
    obtain ⟨file, rfl⟩ := Directive.eq_of_mem_fanOut hpart
    exact searched_of_wildcard?_none (Directive.wildcard?_of_no_star hstar)
  have hcollect := collect_map_of_forall_singleton (g := id) (h := id) hsearched
  rw [List.map_id] at hcollect
  rw [plan_of_rules_none hform hrules, hcollect, Directive.interpolate, Directive.fanOut_mapText]
  rfl

/-! ## Bare texts -/

/-- A bare text comes to what the directive for it does, once the variables have been put in. -/
theorem plan_path (ctx : Context) (text : String) :
    ctx.plan [.path text] = ctx.plan [.directive (.ofText (ctx.vars.expand text))] := rfl

theorem plan_path_of_isUrl {text : String} (h : isUrl (ctx.vars.expand text) = true) :
    ctx.plan [.path text] = .ok [.ofRemote (ctx.vars.expand (ctx.vars.expand text))] := by
  rw [plan_path, Directive.ofText_of_isUrl h, plan_of_no_star rfl (fun _ hpath => by cases hpath)]
  rfl

theorem plan_path_of_not_isUrl {text : String} (h : isUrl (ctx.vars.expand text) = false)
    (hstar : '*' ∉ (ctx.vars.expand text).toList) :
    ctx.plan [.path text] = .ok [.ofLocal (ctx.vars.expand (ctx.vars.expand text))] := by
  rw [plan_path, Directive.ofText_of_not_isUrl h,
    plan_of_no_star rfl (by simpa [Directive.ofLocal] using hstar)]
  rfl

/-- **A bare text goes through the variables twice.** What it is after the first time decides
whether it is taken for a URL or for a path, and what it is after the second is recorded and
classified. The second time does nothing to a text without placeholders. -/
theorem resolve_path {text once twice : String} {s : Session}
    (honce : ctx.vars.expand text = once) (htwice : ctx.vars.expand once = twice)
    (hroom : s.ledger.size < s.ledger.limit) :
    (isUrl once = true → ctx.entry (.ofRemote twice) ∉ s.ledger.entries →
      (runOn (ctx.resolve [.path text]) s).2.ledger =
          s.ledger.append [ctx.entry (.ofRemote twice)] ∧
        (runOn (ctx.resolve [.path text]) s).1 =
          match Url.parse? twice with
          | some url => .ok [.ofRemote ctx.scope twice url]
          | none => .error (.ambiguous (.ofRemote twice))) ∧
    (isUrl once = false → '*' ∉ once.toList → ctx.entry (.ofLocal twice) ∉ s.ledger.entries →
      (runOn (ctx.resolve [.path text]) s).2.ledger =
          s.ledger.append [ctx.entry (.ofLocal twice)] ∧
        (runOn (ctx.resolve [.path text]) s).1 =
          if Text.isBlankText twice then .error (.ambiguous (.ofLocal twice))
          else .ok [.ofLocal ctx.scope twice]) ∧
    (Variables.Plain once.toList → twice = once) := by
  subst honce htwice
  obtain ⟨hout, hledger⟩ := ctx.follows_resolve [.path text] s
  rw [hout, hledger]
  refine ⟨fun hurl hnew => ?_, fun hurl hstar hnew => ?_, Variables.expand_of_plain ctx.vars⟩
  · rw [resolution_of_plan_singleton (plan_path_of_isUrl hurl) hroom hnew, sourceOf_ofRemote]
    refine ⟨rfl, ?_⟩
    cases Url.parse? (ctx.vars.expand (ctx.vars.expand text)) <;> rfl
  · rw [resolution_of_plan_singleton (plan_path_of_not_isUrl hurl hstar) hroom hnew,
      sourceOf_ofLocal]
    refine ⟨rfl, ?_⟩
    cases Text.isBlankText (ctx.vars.expand (ctx.vars.expand text)) <;> rfl

/-- A context in which the values of two variables hold a placeholder. -/
def nestedValues : Context where
  scope := ⟨"group/app", "main"⟩
  vars := .ofList [("PATH", "$NAME"), ("URL", "https://[::1]/$NAME"), ("NAME", "ci.yml")]

/-- What the placeholder in the value of `PATH` stands for is included, and not the value. -/
theorem value_not_kept :
    nestedValues.vars.expand "$PATH" = "$NAME" ∧ isUrl "$NAME" = false ∧
      '*' ∉ "$NAME".toList ∧ Text.isBlankText "$NAME" = false ∧
      ({} : Session).ledger.size < ({} : Session).ledger.limit ∧
      nestedValues.entry (.ofLocal "$NAME") ∉ ({} : Session).ledger.entries ∧
      (runOn (nestedValues.resolve [.path "$PATH"]) {}).1.toOption =
        some [.ofLocal nestedValues.scope "ci.yml"] ∧
      (runOn (nestedValues.resolve [.path "$PATH"]) {}).1.toOption ≠
        some [.ofLocal nestedValues.scope "$NAME"] := by
  decide +kernel

/-- The file behind the URL that `nestedValues` leads to. -/
def loopbackFile : Url where
  scheme := .https
  user := ""
  password := ""
  host := .ipv6 [0, 0, 0, 0, 0, 0, 0, 1]
  port := none
  path := ["ci.yml"]
  query := none
  fragment := none

/-- A path and a URL whose placeholders come out of a value, and a text that is left alone. -/
theorem resolve_path_nestedValues :
    (runOn (nestedValues.resolve [.path "$PATH"]) {}).1 =
        .ok [.ofLocal nestedValues.scope "ci.yml"] ∧
      (runOn (nestedValues.resolve [.path "$URL"]) {}).1 =
        .ok [.ofRemote nestedValues.scope "https://[::1]/ci.yml" loopbackFile] ∧
      nestedValues.vars.expand "ci.yml" = "ci.yml" := by
  have hroom : ({} : Session).ledger.size < ({} : Session).ledger.limit := by decide
  have hname : nestedValues.vars.expand "$NAME" = "ci.yml" := by decide +kernel
  refine ⟨?_, ?_, ?_⟩
  · have hvalue : nestedValues.vars.expand "$PATH" = "$NAME" := by decide +kernel
    obtain ⟨-, hlocal, -⟩ := resolve_path hvalue hname hroom
    have hout := (hlocal (by decide +kernel) (by decide) (by decide +kernel)).2
    exact hout.trans (if_neg (by decide +kernel))
  · have hvalue : nestedValues.vars.expand "$URL" = "https://[::1]/$NAME" := by decide +kernel
    have hurl : nestedValues.vars.expand "https://[::1]/$NAME" = "https://[::1]/ci.yml" := by
      decide +kernel
    have hparse : Url.parse? "https://[::1]/ci.yml" = some loopbackFile := by decide +kernel
    obtain ⟨hremote, -⟩ := resolve_path hvalue hurl hroom
    have hout := (hremote (by decide +kernel) (by decide +kernel)).2
    rwa [hparse] at hout
  · have hplain : Variables.Plain "ci.yml".toList :=
      Variables.plain_of_no_mark (by decide) (by decide)
    exact (resolve_path hname rfl hroom).2.2 hplain

/-! ## Wildcards -/

section wildcard

variable {d : Directive} {pattern : String}

/-- The directives that are recorded for the files that a wildcard matches. -/
theorem plan_wildcard (hlocal : d.localPath = some pattern) (hstar : '*' ∈ pattern.toList)
    (hproject : d.project = none) (hrules : d.rules = none) {paths : List String}
    (hsearch : ctx.repository.search ctx.scope pattern = .ok paths) :
    ctx.plan [.directive d] = .ok ((paths.map ctx.vars.expand).map Directive.ofLocal) := by
  have hform : ctx.recordForm (.directive d) = d := rfl
  rw [plan_of_unguarded hform hrules hproject,
    searched_of_search (Directive.wildcard?_of_star hlocal hstar) hsearch]
  change Except.ok ((paths.map Directive.ofLocal).map (Directive.interpolate ctx.vars)) = _
  rw [List.map_map, List.map_map]
  rfl

theorem plan_wildcard_error (hlocal : d.localPath = some pattern) (hstar : '*' ∈ pattern.toList)
    (hproject : d.project = none) (hrules : d.rules = none) {e : SourceError}
    (hsearch : ctx.repository.search ctx.scope pattern = .error e) :
    ctx.plan [.directive d] = .error (.collaborator e) := by
  have hform : ctx.recordForm (.directive d) = d := rfl
  rw [plan_of_unguarded hform hrules hproject,
    searched_of_search_error (Directive.wildcard?_of_star hlocal hstar) hsearch]
  rfl

theorem mapM_sourceOf_ofLocal {paths : List String}
    (h : ∀ path ∈ paths, Text.isBlankText path = false) :
    (paths.map Directive.ofLocal).mapM ctx.sourceOf = .ok (paths.map (.ofLocal ctx.scope)) := by
  have hmap : (paths.map Directive.ofLocal).map ctx.sourceOf =
      (paths.map (.ofLocal ctx.scope)).map .ok := by
    rw [List.map_map, List.map_map]
    refine List.map_congr_left fun path hpath => ?_
    change ctx.sourceOf (.ofLocal path) = .ok (.ofLocal ctx.scope path)
    rw [sourceOf_ofLocal, h path hpath]
    rfl
  exact mapM_eq_ok.mpr hmap

/-- Paths that are all classified are local files. -/
theorem eq_map_ofLocal_of_mapM {paths : List String} {sources : List Source}
    (h : (paths.map Directive.ofLocal).mapM ctx.sourceOf = .ok sources) :
    sources = paths.map (.ofLocal ctx.scope) := by
  have hblank : ∀ path ∈ paths, Text.isBlankText path = false := by
    intro path hpath
    obtain ⟨source, hok⟩ := exists_ok_of_mapM_eq_ok h _ (List.mem_map_of_mem hpath)
    rw [sourceOf_ofLocal] at hok
    cases hb : Text.isBlankText path with
    | false => rfl
    | true => rw [hb] at hok; cases hok
  exact Except.ok.inj (h.symm.trans (mapM_sourceOf_ofLocal hblank))

theorem entry_ofLocal_injective : Function.Injective fun path => ctx.entry (.ofLocal path) := by
  intro path path' h
  simpa [entry, Directive.ofLocal] using h

theorem nodup_map_entry_ofLocal {paths : List String} :
    ((paths.map Directive.ofLocal).map ctx.entry).Nodup ↔ paths.Nodup := by
  rw [List.map_map]
  exact List.nodup_map_iff entry_ofLocal_injective

/-- From an empty ledger with room for all, directives for paths are refused as duplicates just when
two of the paths are the same. -/
theorem exists_resolution_duplicate_iff {includes : List Include} {paths : List String} {l : Ledger}
    (hplan : ctx.plan includes = .ok (paths.map Directive.ofLocal)) (hempty : l.entries = [])
    (hroom : paths.length ≤ l.limit) :
    (∃ duplicate, (ctx.resolution includes l).1 = .error (.duplicate duplicate)) ↔
      ¬ paths.Nodup := by
  rw [← @nodup_map_entry_ofLocal ctx,
    ← Ledger.exists_duplicate_iff hempty (by simpa using hroom)]
  rcases hrec : l.recordAll ((paths.map Directive.ofLocal).map ctx.entry) with ⟨e | ⟨⟩, l'⟩
  · rw [resolution_of_recordAll_error hplan hrec]
    simp
  · -- An error of the classification is no duplicate.
    rw [resolution_of_admits hplan (Ledger.recordAll_eq_ok.mp hrec).1]
    simp only [Prod.mk.injEq, reduceCtorEq, false_and, exists_const, iff_false, not_exists]
    intro duplicate herr
    obtain ⟨-, d, -, -, -, hd⟩ := mapM_eq_error.mp herr
    cases (sourceOf_eq_error.mp hd).2

/-- Different paths that an empty ledger has room for, none of them blank, are included. -/
theorem resolution_of_nodup {includes : List Include} {paths : List String} {l : Ledger}
    (hplan : ctx.plan includes = .ok (paths.map Directive.ofLocal)) (hempty : l.entries = [])
    (hroom : paths.length ≤ l.limit) (hnodup : paths.Nodup)
    (hblank : ∀ path ∈ paths, Text.isBlankText path = false) :
    (ctx.resolution includes l).1 = .ok (paths.map (.ofLocal ctx.scope)) := by
  have hadm : l.Admits ((paths.map Directive.ofLocal).map ctx.entry) :=
    (Ledger.admits_iff_nodup hempty (by simpa using hroom)).mpr (nodup_map_entry_ofLocal.mpr hnodup)
  rw [resolution_of_admits hplan hadm]
  exact mapM_sourceOf_ofLocal hblank

/-- **A wildcard yields the files that it matches, with the variables put in their names.** They are
local files in the order of the search. From an empty ledger that has room for them, a duplicate is
reported just when two of the names come out the same, and all are included when no name comes out
blank either. A repository in memory names no file twice, so a duplicate takes two different names,
and it takes a placeholder, as a name without any stays as it is. -/
theorem resolve_wildcard {s : Session} (hlocal : d.localPath = some pattern)
    (hstar : '*' ∈ pattern.toList) (hproject : d.project = none) (hrules : d.rules = none) :
    (∀ e, ctx.repository.search ctx.scope pattern = .error e →
      (runOn (ctx.resolve [.directive d]) s).1 = .error (.collaborator e)) ∧
    ∀ paths, ctx.repository.search ctx.scope pattern = .ok paths →
      (∀ sources, (runOn (ctx.resolve [.directive d]) s).1 = .ok sources →
        sources = paths.map fun path => .ofLocal ctx.scope (ctx.vars.expand path)) ∧
      (s.ledger.entries = [] → paths.length ≤ s.ledger.limit →
        ((∃ duplicate,
            (runOn (ctx.resolve [.directive d]) s).1 = .error (.duplicate duplicate)) ↔
          ¬ (paths.map ctx.vars.expand).Nodup) ∧
        ((paths.map ctx.vars.expand).Nodup →
          (∀ path ∈ paths, Text.isBlankText (ctx.vars.expand path) = false) →
          ∃ sources, (runOn (ctx.resolve [.directive d]) s).1 = .ok sources)) ∧
      ((∃ files, ctx.repository = (Trees.ofList files).repository) → paths.Nodup) ∧
      ((∀ path ∈ paths, Variables.Plain path.toList) → paths.map ctx.vars.expand = paths) := by
  rw [(ctx.follows_resolve [.directive d] s).1]
  constructor
  · intro e hsearch
    have hplan := plan_wildcard_error hlocal hstar hproject hrules hsearch
    exact congrArg Prod.fst (resolution_of_plan_error hplan s.ledger)
  · intro paths hsearch
    have hplan := plan_wildcard hlocal hstar hproject hrules hsearch
    refine ⟨fun sources hsources => ?_, fun hempty hroom => ⟨?_, fun hnodup hblank => ?_⟩, ?_,
      fun hplain => ?_⟩
    · obtain ⟨ds, hds, -, hmapM⟩ := resolution_eq_ok.mp (Prod.ext hsources rfl)
      obtain rfl := Except.ok.inj (hplan.symm.trans hds)
      rw [eq_map_ofLocal_of_mapM hmapM, List.map_map]
      rfl
    · exact exists_resolution_duplicate_iff hplan hempty (by simpa using hroom)
    · exact ⟨_, resolution_of_nodup hplan hempty (by simpa using hroom) hnodup
        (List.forall_mem_map.mpr hblank)⟩
    · rintro ⟨files, hrepository⟩
      rw [hrepository] at hsearch
      exact Trees.nodup_search (Trees.increasing_ofList files) hsearch
    · exact (List.map_congr_left fun path hpath =>
        Variables.expand_of_plain ctx.vars (hplain path hpath)).trans (List.map_id paths)

/-- A context with two files, the name of one of which holds a placeholder. -/
def storedNames : Context where
  scope := ⟨"group/app", "main"⟩
  repository := (Trees.ofList
    [(⟨"group/app", "main"⟩, "ci/a$B.yml"), (⟨"group/app", "main"⟩, "ci/a.yml")]).repository

/-- A name that holds a placeholder is not kept, so that the wildcard yields another file. -/
theorem name_not_kept :
    '*' ∈ "ci/a$*.yml".toList ∧
      storedNames.repository.search storedNames.scope "ci/a$*.yml" = .ok ["ci/a$B.yml"] ∧
      ((runOn (storedNames.resolve [.directive (.ofLocal "ci/a$*.yml")]) {}).1.toOption.map
        (List.map Source.target)) = some [.localFile "ci/a.yml"] ∧
      Target.localFile "ci/a.yml" ≠ .localFile "ci/a$B.yml" := by
  decide +kernel

/-- The two names come out the same, so that together they are a duplicate; alone the first is
included under the name of the second, and the second under its own. -/
theorem resolve_wildcard_storedNames :
    (∃ duplicate, (runOn (storedNames.resolve [.directive (.ofLocal "ci/*.yml")]) {}).1 =
        .error (.duplicate duplicate)) ∧
      ["ci/a$B.yml", "ci/a.yml"].Nodup ∧
      (runOn (storedNames.resolve [.directive (.ofLocal "ci/a$*.yml")]) {}).1 =
        .ok [.ofLocal storedNames.scope "ci/a.yml"] ∧
      ["ci/a.yml"].map storedNames.vars.expand = ["ci/a.yml"] := by
  have hboth : storedNames.repository.search storedNames.scope "ci/*.yml" =
      .ok ["ci/a$B.yml", "ci/a.yml"] := by decide +kernel
  have hfirst : storedNames.repository.search storedNames.scope "ci/a$*.yml" =
      .ok ["ci/a$B.yml"] := by decide +kernel
  have hsecond : storedNames.repository.search storedNames.scope "ci/a.*" =
      .ok ["ci/a.yml"] := by decide +kernel
  have hname : storedNames.vars.expand "ci/a$B.yml" = "ci/a.yml" := by decide +kernel
  obtain ⟨-, hempty, hnodup, -⟩ :=
    (@resolve_wildcard _ (.ofLocal "ci/*.yml") _ {} rfl (by decide) rfl rfl).2 _ hboth
  obtain ⟨hsources, hempty', -⟩ :=
    (@resolve_wildcard _ (.ofLocal "ci/a$*.yml") _ {} rfl (by decide) rfl rfl).2 _ hfirst
  obtain ⟨-, -, -, hkept⟩ :=
    (@resolve_wildcard _ (.ofLocal "ci/a.*") _ {} rfl (by decide) rfl rfl).2 _ hsecond
  refine ⟨?_, hnodup ⟨_, rfl⟩, ?_, ?_⟩
  · exact (hempty rfl (by decide)).1.mpr (by decide +kernel)
  · obtain ⟨sources, hout⟩ := (hempty' rfl (by decide)).2 (by decide) (by decide +kernel)
    rw [hout, hsources sources hout, List.map_singleton, hname]
  · refine hkept fun path hpath => ?_
    obtain rfl := List.mem_singleton.mp hpath
    exact Variables.plain_of_no_mark (by decide) (by decide)

end wildcard

end IncludeTree.Context
