import IncludeTree.Proofs.Decision.First
import IncludeTree.Proofs.Glob.Match
import IncludeTree.Proofs.Repository.Content
import IncludeTree.RuleEvaluation

/-!
# What rules decide

`Rule.evaluate` goes through rules, each rule through its patterns, and what stands behind the first
that decides or fails is not looked at. Here the outcome is said without these loops, for a
repository in memory that has been filled with files: `Rule.Searches` lists what may come of a
pattern, `Rule.Comes` what may come of a rule, and `Rule.Decides` what may come of a list of rules.

`first_holding_rule_decides` says that this, and nothing else, comes of rules. On each of the three
levels one direction is a case analysis of the relation (`Searches.found_eq`, `Comes.holds_eq`,
`Decides.evaluate_eq`), and the other follows from the relation covering all cases
(`exists_searches`, `exists_comes`, `exists_decides`).
-/

namespace IncludeTree

/-- The setting of a scope, with files held in memory. -/
def Setting.ofFiles (scope : Scope) (vars : Variables) (files : List (Scope × String)) :
    Setting where
  scope := scope
  vars := vars
  repository := (Trees.ofList files).repository

namespace Rule

/-! ## Loops as searches for the first that decides -/

/-- Whether a pattern, with the variables put in, matches a file of the scope. -/
def found (setting : Setting) (pattern : String) : Except SourceError Bool :=
  (setting.repository.search setting.scope (setting.vars.expand pattern)).map
    fun paths => !paths.isEmpty

theorem anyExists_eq (setting : Setting) (patterns : List String) :
    anyExists setting patterns = (patterns.findM? (found setting)).map Option.isSome := by
  induction patterns with
  | nil => rfl
  | cons pattern rest ih =>
    unfold anyExists
    rcases h : setting.repository.search setting.scope (setting.vars.expand pattern) with
      e | ⟨_ | ⟨path, paths⟩⟩
    · have hfound : found setting pattern = .error e := by simp only [found, h, Except.map]
      rw [findM?_cons_of_error hfound]
      rfl
    · have hfound : found setting pattern = .ok false := by simp [found, h, Except.map]
      rw [findM?_cons_of_false hfound]
      exact ih
    · have hfound : found setting pattern = .ok true := by simp [found, h, Except.map]
      rw [findM?_cons_of_true hfound]
      rfl

theorem evaluate_eq (setting : Setting) (rules : List Rule) :
    evaluate setting rules = (rules.findM? (holds setting)).map (Option.any keeps) := by
  induction rules with
  | nil => rfl
  | cons r rest ih =>
    unfold evaluate
    rcases h : r.holds setting with e | ⟨_ | _⟩
    · rw [findM?_cons_of_error h]
      rfl
    · rw [findM?_cons_of_false h]
      exact ih
    · rw [findM?_cons_of_true h]
      rfl

/-! ## What may come of patterns and rules -/

/-- What holds of something, and of nothing but `x`, says of a thing that it is `x`. -/
theorem eq_iff_of_exists {β : Type} {x y : β} {P : β → Prop} (hexists : ∃ y, P y)
    (h : ∀ y, P y → x = y) : x = y ↔ P y := by
  constructor
  · rintro rfl
    obtain ⟨y, hy⟩ := hexists
    rwa [h y hy]
  · exact h y

section outcomes

variable (scope : Scope) (vars : Variables) (files : List (Scope × String))

/-- What comes of looking a pattern up: whether it matches a file of the scope, or an error. -/
inductive Searches (pattern : String) : Except SourceError Bool → Prop where
  /-- With the variables put in, it matches a file of the scope. -/
  | hit {path} :
      (scope, path) ∈ files →
      Glob.Matches (vars.expand pattern) path →
      Searches pattern (.ok true)
  /-- It is a pattern, and matches no file of the scope. -/
  | misses {tokens} :
      Glob.compile (vars.expand pattern) = .ok tokens →
      (∀ path, (scope, path) ∈ files → ¬ Glob.Matches (vars.expand pattern) path) →
      Searches pattern (.ok false)
  /-- The scope has no file, and it is not asked whether this is a pattern. -/
  | nothing :
      (∀ path, (scope, path) ∉ files) →
      Searches pattern (.ok false)
  /-- The scope has files, and this is no pattern. -/
  | malformed {path e} :
      (scope, path) ∈ files →
      Glob.compile (vars.expand pattern) = .error e →
      Searches pattern (.error e)

/-- What comes of a rule: whether it holds, or an error. -/
inductive Comes (r : Rule) : Except SourceError Bool → Prop where
  /-- Its condition cannot be evaluated. -/
  | malformed {text fault} :
      r.condition = some text →
      Condition.evaluate vars text = .error fault →
      Comes r (.error (.invalidRule fault.message))
  /-- Its condition is false, whatever its patterns are. -/
  | refuted {text} :
      r.condition = some text →
      Condition.evaluate vars text = .ok false →
      Comes r (.ok false)
  /-- It has no pattern, and its condition, if it has one, is true. -/
  | plain :
      (∀ text ∈ r.condition, Condition.evaluate vars text = .ok true) →
      r.paths = [] →
      Comes r (.ok true)
  /-- A pattern matches a file of the scope, and none before it does; those after it may be
  anything. -/
  | finds {before pattern after} :
      (∀ text ∈ r.condition, Condition.evaluate vars text = .ok true) →
      r.paths = before ++ pattern :: after →
      (∀ p ∈ before, Searches scope vars files p (.ok false)) →
      Searches scope vars files pattern (.ok true) →
      Comes r (.ok true)
  /-- It has patterns, and none matches a file of the scope. -/
  | misses :
      (∀ text ∈ r.condition, Condition.evaluate vars text = .ok true) →
      r.paths ≠ [] →
      (∀ p ∈ r.paths, Searches scope vars files p (.ok false)) →
      Comes r (.ok false)
  /-- A pattern cannot be looked up, and none before it matches a file of the scope. -/
  | unsearchable {before pattern after e} :
      (∀ text ∈ r.condition, Condition.evaluate vars text = .ok true) →
      r.paths = before ++ pattern :: after →
      (∀ p ∈ before, Searches scope vars files p (.ok false)) →
      Searches scope vars files pattern (.error e) →
      Comes r (.error e)

/-- What comes of a list of rules: whether the include is active, or an error. -/
inductive Decides (rules : List Rule) : Except SourceError Bool → Prop where
  /-- The first rule that holds decides; those after it may be anything. -/
  | first {before r after} :
      rules = before ++ r :: after →
      (∀ b ∈ before, Comes scope vars files b (.ok false)) →
      Comes scope vars files r (.ok true) →
      Decides rules (.ok (r.when != some .never))
  /-- No rule holds. -/
  | none :
      (∀ r ∈ rules, Comes scope vars files r (.ok false)) →
      Decides rules (.ok false)
  /-- A rule fails, and none before it holds; those after it may be anything. -/
  | failed {before r after e} :
      rules = before ++ r :: after →
      (∀ b ∈ before, Comes scope vars files b (.ok false)) →
      Comes scope vars files r (.error e) →
      Decides rules (.error e)

/-- A rule applies when its condition, if it has one, is true, and one of its patterns, if it has
any, matches a file of the scope. -/
structure Applies (r : Rule) : Prop where
  condition : ∀ text ∈ r.condition, Condition.evaluate vars text = .ok true
  paths : r.paths = [] ∨ ∃ pattern ∈ r.paths, ∃ path,
    (scope, path) ∈ files ∧ Glob.Matches (vars.expand pattern) path

end outcomes

variable {scope : Scope} {vars : Variables} {files : List (Scope × String)} {pattern path : String}
  {o : Except SourceError Bool} {r : Rule} {rules : List Rule}

/-! ## Patterns -/

theorem compile_eq_ok {tokens : List Glob.Token} :
    Glob.compile pattern = .ok tokens ↔ Glob.parse pattern = .ok tokens := by
  unfold Glob.compile
  cases Glob.parse pattern <;> simp

theorem matches_iff_of_compile {tokens : List Glob.Token} (h : Glob.compile pattern = .ok tokens) :
    Glob.Matches pattern path ↔ Glob.matchesPath tokens path = true := by
  unfold Glob.Matches
  simp [compile_eq_ok.mp h]

theorem found_of_no_file (h : ∀ path, (scope, path) ∉ files) :
    found (.ofFiles scope vars files) pattern = .ok false := by
  have hnone : ∀ path, path ∈ ([] : List String) ↔ (scope, path) ∈ files := fun path => by
    simp [h path]
  have hsearch : (Trees.ofList files).search scope (vars.expand pattern) = .ok [] :=
    (Trees.search_ofList hnone _).trans (if_pos rfl)
  simp [found, Setting.ofFiles, Trees.repository, hsearch, Except.map]

/-- In a scope with files a pattern is read, and matched against these files. -/
theorem found_of_mem (vars : Variables) (pattern : String) (h : (scope, path) ∈ files) :
    ∃ paths, (∀ path, path ∈ paths ↔ (scope, path) ∈ files) ∧
      found (.ofFiles scope vars files) pattern =
        (Glob.select (vars.expand pattern) paths).map fun selected => !selected.isEmpty := by
  have hpaths : ∀ path, path ∈ ((Trees.ofList files).find? scope).getD [] ↔ (scope, path) ∈ files :=
    fun path => Trees.mem_find?_ofList
  have hne : ((Trees.ofList files).find? scope).getD [] ≠ [] :=
    List.ne_nil_of_mem ((hpaths path).mpr h)
  refine ⟨_, fun path => Trees.mem_sorted.trans (hpaths path), ?_⟩
  rw [← (Trees.search_ofList hpaths _).trans (if_neg hne)]
  rfl

theorem found_of_compile_ok {tokens : List Glob.Token} (h : (scope, path) ∈ files)
    (hcompile : Glob.compile (vars.expand pattern) = .ok tokens) :
    ∃ b, found (.ofFiles scope vars files) pattern = .ok b ∧
      (b = true ↔ ∃ path, (scope, path) ∈ files ∧ Glob.Matches (vars.expand pattern) path) := by
  obtain ⟨paths, hpaths, hfound⟩ := found_of_mem vars pattern h
  refine ⟨!(paths.filter (Glob.matchesPath tokens)).isEmpty, ?_, ?_⟩
  · rw [hfound]
    simp only [Glob.select, hcompile, Except.map]
  · simp [matches_iff_of_compile hcompile, hpaths]

theorem Searches.found_eq (h : Searches scope vars files pattern o) :
    found (.ofFiles scope vars files) pattern = o := by
  cases h with
  | hit hpath hmatches =>
    obtain ⟨tokens, hparse, -⟩ := id hmatches
    obtain ⟨b, hfound, hb⟩ := found_of_compile_ok hpath (compile_eq_ok.mpr hparse)
    rw [hfound, hb.mpr ⟨_, hpath, hmatches⟩]
  | misses hcompile hnone =>
    by_cases hfile : ∃ path, (scope, path) ∈ files
    · obtain ⟨path, hpath⟩ := hfile
      obtain ⟨b, hfound, hb⟩ := found_of_compile_ok hpath hcompile
      have hfalse : b = false := by
        rw [← Bool.not_eq_true, hb]
        exact fun ⟨path, hpath, hmatches⟩ => hnone path hpath hmatches
      rw [hfound, hfalse]
    · exact found_of_no_file fun path hpath => hfile ⟨path, hpath⟩
  | nothing hnone => exact found_of_no_file hnone
  | malformed hpath hcompile =>
    obtain ⟨paths, -, hfound⟩ := found_of_mem vars pattern hpath
    rw [hfound]
    simp only [Glob.select, hcompile, Except.map]

theorem exists_searches (scope : Scope) (vars : Variables) (files : List (Scope × String))
    (pattern : String) : ∃ o, Searches scope vars files pattern o := by
  by_cases hfile : ∃ path, (scope, path) ∈ files
  · obtain ⟨path, hpath⟩ := hfile
    rcases hcompile : Glob.compile (vars.expand pattern) with e | tokens
    · exact ⟨_, .malformed hpath hcompile⟩
    · by_cases hmatches : ∃ path, (scope, path) ∈ files ∧ Glob.Matches (vars.expand pattern) path
      · obtain ⟨path, hpath, hmatches⟩ := hmatches
        exact ⟨_, .hit hpath hmatches⟩
      · exact ⟨_, .misses hcompile fun path hpath h => hmatches ⟨path, hpath, h⟩⟩
  · exact ⟨_, .nothing fun path hpath => hfile ⟨path, hpath⟩⟩

theorem found_eq_iff :
    found (.ofFiles scope vars files) pattern = o ↔ Searches scope vars files pattern o :=
  eq_iff_of_exists (exists_searches scope vars files pattern) fun _ => Searches.found_eq

/-! ## Rules -/

theorem holds_of_condition {setting : Setting}
    (h : ∀ text ∈ r.condition, Condition.evaluate setting.vars text = .ok true) :
    r.holds setting =
      if r.paths = [] then .ok true
      else (r.paths.findM? (found setting)).map Option.isSome := by
  have hcondition : r.conditionHolds setting = .ok true := by
    unfold conditionHolds
    cases hr : r.condition with
    | none => rfl
    | some text => simp only [h text hr]
  unfold holds
  simp only [hcondition, List.isEmpty_iff, anyExists_eq]

theorem Comes.holds_eq (h : Comes scope vars files r o) :
    r.holds (.ofFiles scope vars files) = o := by
  cases h with
  | malformed htext heval =>
    simp only [holds, conditionHolds, htext, Setting.ofFiles, heval]
  | refuted htext heval =>
    simp only [holds, conditionHolds, htext, Setting.ofFiles, heval]
  | plain hcondition hpaths => rw [holds_of_condition hcondition, if_pos hpaths]
  | finds hcondition hpaths hbefore hpattern =>
    have hfirst : r.paths.findM? (found (.ofFiles scope vars files)) = .ok (some _) :=
      findM?_eq_some.mpr ⟨_, _, hpaths, fun p hp => (hbefore p hp).found_eq, hpattern.found_eq⟩
    rw [holds_of_condition hcondition, if_neg (by simp [hpaths]), hfirst]
    rfl
  | misses hcondition hpaths hmisses =>
    have hnone : r.paths.findM? (found (.ofFiles scope vars files)) = .ok none :=
      findM?_eq_none.mpr fun p hp => (hmisses p hp).found_eq
    rw [holds_of_condition hcondition, if_neg hpaths, hnone]
    rfl
  | unsearchable hcondition hpaths hbefore hpattern =>
    have herror : r.paths.findM? (found (.ofFiles scope vars files)) = .error _ :=
      findM?_eq_error.mpr ⟨_, _, _, hpaths, fun p hp => (hbefore p hp).found_eq, hpattern.found_eq⟩
    rw [holds_of_condition hcondition, if_neg (by simp [hpaths]), herror]
    rfl

theorem exists_comes_of_condition
    (h : ∀ text ∈ r.condition, Condition.evaluate vars text = .ok true) :
    ∃ o, Comes scope vars files r o := by
  by_cases hpaths : r.paths = []
  · exact ⟨_, .plain h hpaths⟩
  · rcases hfirst : r.paths.findM? (found (.ofFiles scope vars files)) with e | _ | pattern
    · obtain ⟨before, pattern, after, hsplit, hbefore, hpattern⟩ := findM?_eq_error.mp hfirst
      exact ⟨_, .unsearchable h hsplit (fun p hp => found_eq_iff.mp (hbefore p hp))
        (found_eq_iff.mp hpattern)⟩
    · exact ⟨_, .misses h hpaths fun p hp => found_eq_iff.mp (findM?_eq_none.mp hfirst p hp)⟩
    · obtain ⟨before, after, hsplit, hbefore, hpattern⟩ := findM?_eq_some.mp hfirst
      exact ⟨_, .finds h hsplit (fun p hp => found_eq_iff.mp (hbefore p hp))
        (found_eq_iff.mp hpattern)⟩

theorem exists_comes (scope : Scope) (vars : Variables) (files : List (Scope × String))
    (r : Rule) : ∃ o, Comes scope vars files r o := by
  cases hr : r.condition with
  | none => exact exists_comes_of_condition (by simp [hr])
  | some text =>
    rcases heval : Condition.evaluate vars text with fault | _ | _
    · exact ⟨_, .malformed hr heval⟩
    · exact ⟨_, .refuted hr heval⟩
    · refine exists_comes_of_condition fun text' htext' => ?_
      obtain rfl : text = text' := Option.some.inj (hr.symm.trans htext')
      exact heval

theorem holds_eq_iff :
    r.holds (.ofFiles scope vars files) = o ↔ Comes scope vars files r o :=
  eq_iff_of_exists (exists_comes scope vars files r) fun _ => Comes.holds_eq

theorem Searches.iff_matches {b : Bool} (h : Searches scope vars files pattern (.ok b)) :
    b = true ↔ ∃ path, (scope, path) ∈ files ∧ Glob.Matches (vars.expand pattern) path := by
  cases h with
  | hit hpath hmatches => exact ⟨fun _ => ⟨_, hpath, hmatches⟩, fun _ => rfl⟩
  | misses _ hnone => simpa using hnone
  | nothing hnone => simp [hnone]

theorem Comes.iff_applies {b : Bool} (h : Comes scope vars files r (.ok b)) :
    b = true ↔ Applies scope vars files r := by
  cases h with
  | refuted htext heval =>
    refine ⟨nofun, fun happlies => ?_⟩
    have htrue := happlies.condition _ htext
    rw [heval] at htrue
    cases htrue
  | plain hcondition hpaths => exact ⟨fun _ => ⟨hcondition, .inl hpaths⟩, fun _ => rfl⟩
  | finds hcondition hpaths hbefore hpattern =>
    refine ⟨fun _ => ⟨hcondition, .inr ⟨_, ?_, hpattern.iff_matches.mp rfl⟩⟩, fun _ => rfl⟩
    simp [hpaths]
  | misses hcondition hpaths hmisses =>
    refine ⟨nofun, fun happlies => ?_⟩
    obtain hnil | ⟨pattern, hpattern, hmatches⟩ := happlies.paths
    · exact absurd hnil hpaths
    · exact (hmisses pattern hpattern).iff_matches.mpr hmatches

/-! ## Lists of rules -/

theorem Decides.evaluate_eq (h : Decides scope vars files rules o) :
    evaluate (.ofFiles scope vars files) rules = o := by
  rw [Rule.evaluate_eq]
  cases h with
  | first hsplit hbefore hr =>
    have hfirst : rules.findM? (holds (.ofFiles scope vars files)) = .ok (some _) :=
      findM?_eq_some.mpr ⟨_, _, hsplit, fun b hb => (hbefore b hb).holds_eq, hr.holds_eq⟩
    rw [hfirst]
    rfl
  | none hnone =>
    have hnot : rules.findM? (holds (.ofFiles scope vars files)) = .ok Option.none :=
      findM?_eq_none.mpr fun r hr => (hnone r hr).holds_eq
    rw [hnot]
    rfl
  | failed hsplit hbefore hr =>
    have herror : rules.findM? (holds (.ofFiles scope vars files)) = .error _ :=
      findM?_eq_error.mpr ⟨_, _, _, hsplit, fun b hb => (hbefore b hb).holds_eq, hr.holds_eq⟩
    rw [herror]
    rfl

theorem exists_decides (scope : Scope) (vars : Variables) (files : List (Scope × String))
    (rules : List Rule) : ∃ o, Decides scope vars files rules o := by
  rcases hfirst : rules.findM? (holds (.ofFiles scope vars files)) with e | _ | r
  · obtain ⟨before, r, after, hsplit, hbefore, hr⟩ := findM?_eq_error.mp hfirst
    exact ⟨_, .failed hsplit (fun b hb => holds_eq_iff.mp (hbefore b hb)) (holds_eq_iff.mp hr)⟩
  · exact ⟨_, .none fun r hr => holds_eq_iff.mp (findM?_eq_none.mp hfirst r hr)⟩
  · obtain ⟨before, after, hsplit, hbefore, hr⟩ := findM?_eq_some.mp hfirst
    exact ⟨_, .first hsplit (fun b hb => holds_eq_iff.mp (hbefore b hb)) (holds_eq_iff.mp hr)⟩

/-- **The first rule that holds decides.** For any rules, variables and files, an include is active,
is dropped or fails just as `Decides` says, and no rule behind the one that decides or fails makes a
difference. A rule that does not fail holds exactly when it applies. -/
theorem first_holding_rule_decides (scope : Scope) (vars : Variables)
    (files : List (Scope × String)) (rules : List Rule) :
    (∀ o, evaluate (.ofFiles scope vars files) rules = o ↔ Decides scope vars files rules o) ∧
      ∀ r b, Comes scope vars files r (.ok b) ↔
        (b = true ↔ Applies scope vars files r) ∧ ∀ e, ¬ Comes scope vars files r (.error e) := by
  have hdecides : ∀ o, evaluate (.ofFiles scope vars files) rules = o ↔
      Decides scope vars files rules o := fun o =>
    eq_iff_of_exists (exists_decides scope vars files rules) fun _ => Decides.evaluate_eq
  refine ⟨hdecides, fun r b => ⟨fun h => ⟨h.iff_applies, ?_⟩, ?_⟩⟩
  · intro e he
    cases h.holds_eq.symm.trans he.holds_eq
  · rintro ⟨hb, hfails⟩
    obtain ⟨e | b', ho⟩ := exists_comes scope vars files r
    · exact absurd ho (hfails e)
    · have hsame : b' = b := Bool.eq_iff_iff.mpr (ho.iff_applies.trans hb.symm)
      rwa [hsame] at ho

end Rule

end IncludeTree
