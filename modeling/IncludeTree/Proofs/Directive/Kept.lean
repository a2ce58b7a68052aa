import IncludeTree.Proofs.Directive.Kdl
import IncludeTree.Proofs.Directive.Parts

/-!
# What is read of an include node

`Include.ReadFrom` says which include a node writes when all of it is read: every entry of a rule
is a clause and every child of it a list of paths, every file list is made of texts, and a list of
rules has nothing but its rules. Where something is given several times the last one counts, and a
single file joins those before it.

Reading looks for what it knows and passes over the rest without a fault. What it passes over are
just the parts that `Kdl.Node.kept` leaves out: a node is read as what is kept of it
(`Include.ofNode_kept`), and what is kept is read in full (`Include.ofNode_eq_ok_iff`). So a rule
can lose a clause and a list a file (`Include.lossy_read`), but only from nodes that are not whole.
-/

namespace IncludeTree

/-- A run that takes items one after the other and stops at a fault comes to an end just if every
item sets something, and then these are set one after the other. -/
theorem eq_ok_iff_of_steps {α ε φ γ : Type} (step : α → ε → Except φ α)
    {run : α → List ε → Except φ α} {Writes : γ → ε → Prop} {set : α → γ → α}
    (hnil : ∀ a, run a [] = .ok a)
    (hcons : ∀ a e rest, run a (e :: rest) = (step a e).bind (run · rest))
    (hstep : ∀ a a' e, step a e = .ok a' ↔ ∃ c, Writes c e ∧ a' = set a c)
    {items : List ε} {a a' : α} :
    run a items = .ok a' ↔ ∃ cs, List.Forall₂ Writes cs items ∧ a' = cs.foldl set a := by
  induction items generalizing a with
  | nil => simp [hnil, eq_comm]
  | cons e rest ih =>
    rw [hcons]
    simp only [List.forall₂_cons_right_iff]
    constructor
    · intro h
      cases hnext : step a e with
      | error fault =>
        rw [hnext] at h
        cases h
      | ok next =>
        rw [hnext] at h
        obtain ⟨c, hc, rfl⟩ := (hstep a next e).mp hnext
        obtain ⟨cs, hcs, rfl⟩ := ih.mp h
        exact ⟨c :: cs, ⟨c, cs, hc, hcs, rfl⟩, rfl⟩
    · rintro ⟨_, ⟨c, cs, hc, hcs, rfl⟩, rfl⟩
      rw [(hstep a _ e).mpr ⟨c, hc, rfl⟩]
      exact ih.mpr ⟨cs, hcs, rfl⟩

/-! ## Rules -/

namespace Rule

/-- Whether a node writes a rule, and is read in full: its properties are clauses, and its children
list more paths. Of several conditions or verdicts the last counts. -/
def ReadFrom (r : Rule) (n : Kdl.Node) : Prop :=
  ∃ (clauses : List Clause) (more : List (List String)),
    n.name = "rule" ∧ n.entries = clauses.map Clause.entry ∧
    List.Forall₂ (fun texts c => c.name = "exists" ∧ c.Lists texts) more (n.children.getD []) ∧
    r = { condition := (clauses.filterMap Clause.condition?).getLast?
          paths := clauses.filterMap Clause.path? ++ more.flatten
          when := (clauses.filterMap Clause.when?).getLast? }

variable {r r' : Rule} {rs : List Rule} {n : Kdl.Node} {e : Kdl.Entry} {entries : List Kdl.Entry}

/-- What is read in full has no part that is passed over. -/
theorem ReadFrom.isWholeRule (h : r.ReadFrom n) : n.IsWholeRule := by
  obtain ⟨clauses, more, -, -, hmore, -⟩ := h
  intro c hc
  obtain ⟨texts, hname, hlists⟩ := exists_of_mem_of_forall₂ hmore hc
  exact ⟨hname, (Kdl.Node.lists_iff.mp hlists).1⟩

theorem eq_word_of_ofWord? {s : String} {w : When} (h : When.ofWord? s = some w) : s = w.word := by
  unfold When.ofWord? at h
  split at h
  · next hs => exact hs.trans (congrArg When.word (Option.some.inj h))
  · split at h
    · next hs => exact hs.trans (congrArg When.word (Option.some.inj h))
    · cases h

/-- The entries that a rule takes are clauses. -/
theorem addEntry_eq_ok_iff :
    r.addEntry e = .ok r' ↔ ∃ c : Clause, c.entry = e ∧ r' = r.addClause c := by
  constructor
  · intro h
    obtain ⟨v⟩ | ⟨key, v⟩ := e
    · cases h
    simp only [addEntry] at h
    split at h
    · cases h
    next s hs =>
    obtain rfl := Kdl.string?_eq_some.mp hs
    split at h
    · next hkey => exact ⟨.condition s, by rw [hkey]; rfl, (Except.ok.inj h).symm⟩
    split at h
    · next hkey => exact ⟨.path s, by rw [hkey]; rfl, (Except.ok.inj h).symm⟩
    split at h
    · next hkey =>
      split at h
      · next w hw =>
        exact ⟨.when w, by rw [hkey, eq_word_of_ofWord? hw]; rfl, (Except.ok.inj h).symm⟩
      · cases h
    · cases h
  · rintro ⟨c, rfl, rfl⟩
    exact addEntry_entry r c

theorem addEntries_eq_ok_iff : r.addEntries entries = .ok r' ↔
    ∃ clauses : List Clause, entries = clauses.map Clause.entry ∧
      r' = clauses.foldl addClause r := by
  have hclauses : ∀ clauses : List Clause,
      entries = clauses.map Clause.entry ↔ List.Forall₂ (·.entry = ·) clauses entries := by
    intro clauses
    rw [eq_comm, ← List.forall₂_eq_eq_eq, List.forall₂_map_left_iff]
  simp only [hclauses]
  apply eq_ok_iff_of_steps addEntry
  · intro r
    rfl
  · intro r e rest
    rw [addEntries]
    cases r.addEntry e <;> rfl
  · intro r r' e
    exact addEntry_eq_ok_iff

/-- The lists of paths in the children of a rule. -/
def listedPaths (n : Kdl.Node) : List (List String) :=
  ((n.children.getD []).filter (·.name == "exists")).map Kdl.Node.stringArguments

theorem ofNode_eq (n : Kdl.Node) : ofNode n = (addEntries {} n.entries).map fun r =>
    { r with paths := r.paths ++ (listedPaths n).flatten } := by
  unfold ofNode listedPaths
  cases addEntries {} n.entries <;> simp [Except.map, List.flatMap_def]

theorem listedPaths_keptRule (n : Kdl.Node) : listedPaths n.keptRule = listedPaths n := by
  unfold listedPaths
  rw [Kdl.Node.children_keptRule, List.filter_map, List.map_map]
  simp only [Function.comp_def, Kdl.Node.name_keptList, Kdl.Node.stringArguments_keptList,
    List.filter_filter, Bool.and_self]

/-- A rule is read as what is kept of it. -/
theorem ofNode_keptRule (n : Kdl.Node) : ofNode n.keptRule = ofNode n := by
  rw [ofNode_eq, ofNode_eq, listedPaths_keptRule, Kdl.Node.keptRule, Kdl.Node.entries_mapChildren]

/-- What is kept of the children of a rule are its lists of paths. -/
theorem forall₂_keptRule {more : List (List String)} :
    List.Forall₂ (fun texts c => c.name = "exists" ∧ c.Lists texts) more
      (n.keptRule.children.getD []) ↔ more = listedPaths n := by
  rw [Kdl.Node.children_keptRule, List.forall₂_map_right_iff, listedPaths]
  refine forall₂_iff_eq_map fun c hc texts => ?_
  have hname : c.name = "exists" := by simpa using (List.mem_filter.mp hc).2
  rw [Kdl.Node.name_keptList, Kdl.Node.lists_keptList, and_iff_right hname]

/-- What is kept of a rule is read in full. -/
theorem ofNode_eq_ok_iff (hname : n.name = "rule") :
    ofNode n = .ok r ↔ r.ReadFrom n.keptRule := by
  have hclauses : ∀ clauses : List Clause, clauses.foldl addClause {} =
      { condition := (clauses.filterMap Clause.condition?).getLast?
        paths := clauses.filterMap Clause.path?
        when := (clauses.filterMap Clause.when?).getLast? } := by simp [foldl_addClause]
  have hentries : n.keptRule.entries = n.entries := Kdl.Node.entries_mapChildren _ n
  rw [ofNode_eq]
  constructor
  · intro h
    cases hadd : addEntries {} n.entries with
    | error fault =>
      rw [hadd] at h
      cases h
    | ok read =>
      rw [hadd] at h
      obtain ⟨clauses, heq, rfl⟩ := addEntries_eq_ok_iff.mp hadd
      refine ⟨clauses, listedPaths n, ?_, hentries.trans heq, forall₂_keptRule.mpr rfl, ?_⟩
      · rw [Kdl.Node.name_keptRule, hname]
      · rw [← Except.ok.inj h, hclauses]
  · rintro ⟨clauses, more, -, heq, hmore, rfl⟩
    rw [← hentries, heq, addEntries_map_entry, hclauses, forall₂_keptRule.mp hmore]
    rfl

theorem ofNodes_keptRule (nodes : List Kdl.Node) :
    ofNodes (nodes.map Kdl.Node.keptRule) = ofNodes nodes := by
  induction nodes with
  | nil => rfl
  | cons n rest ih =>
    simp only [List.map_cons, ofNodes, Kdl.Node.name_keptRule, ofNode_keptRule, ih]

/-- Every node of a list of rules is a rule, and what is kept of it is read in full. -/
theorem ofNodes_eq_ok_iff {nodes : List Kdl.Node} :
    ofNodes nodes = .ok rs ↔ List.Forall₂ ReadFrom rs (nodes.map Kdl.Node.keptRule) := by
  induction nodes generalizing rs with
  | nil => simp [ofNodes, eq_comm]
  | cons n rest ih =>
    simp only [List.map_cons, List.forall₂_cons_right_iff, ← ih, ofNodes]
    split
    · next hname =>
      simp only [← ofNode_eq_ok_iff hname]
      cases ofNode n with
      | error fault => simp
      | ok r => cases ofNodes rest <;> simp [eq_comm]
    · next hname =>
      have hnone : ∀ r : Rule, ¬ r.ReadFrom n.keptRule := by
        rintro r ⟨-, -, hrule, -⟩
        exact hname (by rwa [Kdl.Node.name_keptRule] at hrule)
      simp [hnone]

end Rule

/-! ## Directives -/

namespace Directive

/-- Whether a child node writes a field, and is read in full: `file` is a list of texts, and `rules`
has nothing but rules. -/
inductive Field.ReadFromChild : Field → Kdl.Node → Prop where
  | file {n : Kdl.Node} {paths : List String} : n.name = "file" → n.Lists paths →
      ReadFromChild (.file (.many paths)) n
  | rules {n : Kdl.Node} {rs : List Rule} : n.name = "rules" → n.entries = [] →
      List.Forall₂ Rule.ReadFrom rs (n.children.getD []) → ReadFromChild (.rules rs) n

/-- Whether a node writes a directive, and is read in full: its entries and then its children are
fields that are set one after the other. -/
def ReadFrom (d : Directive) (n : Kdl.Node) : Prop :=
  ∃ fs gs : List Field, List.Forall₂ Field.WrittenAsEntry fs n.entries ∧
    List.Forall₂ Field.ReadFromChild gs (n.children.getD []) ∧ d = (fs ++ gs).foldl set {}

variable {d d' : Directive} {n : Kdl.Node} {e : Kdl.Entry} {entries : List Kdl.Entry}

/-- What is read in full has no part that is passed over. -/
theorem Field.ReadFromChild.isWholeChild {f : Field} (h : f.ReadFromChild n) :
    n.IsWholeChild := by
  cases h with
  | file hname hlists =>
    exact ⟨fun _ => (Kdl.Node.lists_iff.mp hlists).1, fun hrules => by simp [hname] at hrules⟩
  | rules hname hentries hrules =>
    refine ⟨fun hfile => by simp [hname] at hfile, fun _ => ⟨hentries, fun r hr => ?_⟩⟩
    obtain ⟨rule, hrule⟩ := exists_of_mem_of_forall₂ hrules hr
    exact hrule.isWholeRule

/-- The entries that a directive takes write fields. -/
theorem addEntry_eq_ok_iff :
    d.addEntry e = .ok d' ↔ ∃ f : Field, f.WrittenAsEntry e ∧ d' = d.set f := by
  constructor
  · intro h
    obtain ⟨v⟩ | ⟨key, v⟩ := e
    · cases h
    simp only [addEntry] at h
    split at h
    · cases h
    next s hs =>
    obtain rfl := Kdl.string?_eq_some.mp hs
    have hfield : ∀ f : Field, key = f.key → f.text? = some s →
        (Except.ok (d.set f) : Faulty Directive) = .ok d' →
        ∃ f : Field, f.WrittenAsEntry (.property key (.string s)) ∧ d' = d.set f := by
      rintro f rfl htext hset
      exact ⟨f, .property htext, (Except.ok.inj hset).symm⟩
    split at h
    · next hkey => exact hfield (.localPath s) hkey rfl h
    split at h
    · next hkey => exact hfield (.remote s) hkey rfl h
    split at h
    · next hkey => exact hfield (.template s) hkey rfl h
    split at h
    · next hkey => exact hfield (.project s) hkey rfl h
    split at h
    · next hkey => exact hfield (.artifact s) hkey rfl h
    split at h
    · next hkey => exact hfield (.job s) hkey rfl h
    split at h
    · next hkey => exact hfield (.ref s) hkey rfl h
    split at h
    · next hkey => exact hfield (.file (.one s)) hkey rfl h
    · cases h
  · rintro ⟨f, hwritten, rfl⟩
    exact addEntry_eq_set d hwritten

theorem addEntries_eq_ok_iff : d.addEntries entries = .ok d' ↔
    ∃ fs, List.Forall₂ Field.WrittenAsEntry fs entries ∧ d' = fs.foldl set d := by
  apply eq_ok_iff_of_steps addEntry
  · intro d
    rfl
  · intro d e rest
    rw [addEntries]
    cases d.addEntry e <;> rfl
  · intro d d' e
    exact addEntry_eq_ok_iff

/-- A child is read as what is kept of it. -/
theorem addChild_keptChild (d : Directive) (n : Kdl.Node) :
    d.addChild n.keptChild = d.addChild n := by
  unfold addChild
  rw [Kdl.Node.name_keptChild]
  by_cases hfile : n.name = "file"
  · simp [hfile, Kdl.Node.keptChild_of_file, Kdl.Node.stringArguments_keptList]
  by_cases hrules : n.name = "rules"
  · simp [hrules, Kdl.Node.children_keptChild, Rule.ofNodes_keptRule]
  · simp [hfile, hrules]

/-- What is kept of a child is read in full. -/
theorem addChild_eq_ok_iff :
    d.addChild n = .ok d' ↔ ∃ f : Field, f.ReadFromChild n.keptChild ∧ d' = d.set f := by
  constructor
  · intro h
    unfold addChild at h
    split at h
    · next hfile =>
      refine ⟨.file (.many n.stringArguments), .file ?_ ?_, (Except.ok.inj h).symm⟩
      · rw [Kdl.Node.name_keptChild, hfile]
      · rw [Kdl.Node.keptChild_of_file hfile]
        exact Kdl.Node.lists_keptList.mpr rfl
    split at h
    · next hrules =>
      split at h
      · next rs hread =>
        refine ⟨.rules rs, .rules ?_ ?_ ?_, (Except.ok.inj h).symm⟩
        · rw [Kdl.Node.name_keptChild, hrules]
        · rw [Kdl.Node.keptChild_of_rules hrules]
          rfl
        · rw [Kdl.Node.children_keptChild hrules]
          exact Rule.ofNodes_eq_ok_iff.mp hread
      · cases h
    · cases h
  · rintro ⟨f, hf, rfl⟩
    cases hf with
    | @file _ paths hname hlists =>
      rw [Kdl.Node.name_keptChild] at hname
      rw [Kdl.Node.keptChild_of_file hname, Kdl.Node.lists_keptList] at hlists
      simp [addChild, hname, hlists, set, put]
    | @rules _ rs hname _ hrules =>
      rw [Kdl.Node.name_keptChild] at hname
      rw [Kdl.Node.children_keptChild hname, ← Rule.ofNodes_eq_ok_iff] at hrules
      simp [addChild, hname, hrules, set, put]

theorem addChildren_keptChild (nodes : List Kdl.Node) (d : Directive) :
    d.addChildren (nodes.map Kdl.Node.keptChild) = d.addChildren nodes := by
  induction nodes generalizing d with
  | nil => rfl
  | cons n rest ih => simp only [List.map_cons, addChildren, addChild_keptChild, ih]

theorem addChildren_eq_ok_iff {nodes : List Kdl.Node} : d.addChildren nodes = .ok d' ↔
    ∃ gs, List.Forall₂ Field.ReadFromChild gs (nodes.map Kdl.Node.keptChild) ∧
      d' = gs.foldl set d := by
  simp only [List.forall₂_map_right_iff]
  apply eq_ok_iff_of_steps addChild
  · intro d
    rfl
  · intro d n rest
    rw [addChildren]
    cases d.addChild n <;> rfl
  · intro d d' n
    exact addChild_eq_ok_iff

end Directive

/-! ## Includes and documents -/

namespace Include

/-- Whether a node writes an include, and is read in full. -/
inductive ReadFrom : Include → Kdl.Node → Prop where
  | path {n : Kdl.Node} {text : String} : n.entries = [.argument (.string text)] →
      n.children = none → ReadFrom (.path text) n
  | directive {n : Kdl.Node} {d : Directive} : d.ReadFrom n → ReadFrom (.directive d) n

variable {i : Include} {n : Kdl.Node}

/-- What is read in full has no part that is passed over. -/
theorem ReadFrom.isWhole (h : i.ReadFrom n) : n.IsWhole := by
  intro c hc
  rcases h with ⟨-, hchildren⟩ | ⟨fs, gs, -, hgs, -⟩
  · rw [hchildren] at hc
    cases hc
  · obtain ⟨f, hf⟩ := exists_of_mem_of_forall₂ hgs hc
    exact hf.isWholeChild

/-- **An include is read as what is kept of it**, with the same fault if it has one. -/
theorem ofNode_kept (n : Kdl.Node) : ofNode n.kept = ofNode n := by
  unfold ofNode Kdl.Node.arguments
  simp only [Kdl.Node.entries_kept, Kdl.Node.isSome_children_kept, Kdl.Node.children_kept,
    Directive.addChildren_keptChild]

/-- A node with one argument and no property has nothing else in its entries. -/
theorem entries_eq_singleton {entries : List Kdl.Entry} {v : Kdl.Value}
    (harguments : entries.filterMap Kdl.Entry.argument? = [v])
    (hproperties : entries.any Kdl.Entry.isProperty = false) : entries = [.argument v] := by
  have hall : entries = (entries.filterMap Kdl.Entry.argument?).map .argument := by
    clear harguments
    induction entries with
    | nil => rfl
    | cons e entries ih =>
      rw [List.any_cons, Bool.or_eq_false_iff] at hproperties
      cases e with
      | argument v => exact congrArg (_ :: ·) (ih hproperties.2)
      | property key v => cases hproperties.1
  rw [hall, harguments]
  rfl

/-- **What is kept of an include is read in full.** -/
theorem ofNode_eq_ok_iff : ofNode n = .ok i ↔ i.ReadFrom n.kept := by
  constructor
  · intro h
    unfold ofNode at h
    split at h
    · next harguments =>
      split at h
      · cases h
      next d hd =>
      split at h
      · cases h
      next d' hd' =>
      obtain rfl := Except.ok.inj h
      obtain ⟨fs, hfs, rfl⟩ := Directive.addEntries_eq_ok_iff.mp hd
      obtain ⟨gs, hgs, rfl⟩ := Directive.addChildren_eq_ok_iff.mp hd'
      refine .directive ⟨fs, gs, ?_, ?_, List.foldl_append.symm⟩
      · rwa [Kdl.Node.entries_kept]
      · rwa [Kdl.Node.children_kept]
    · next v more harguments =>
      split at h
      · cases h
      next halone =>
      split at h
      · next s hs =>
        obtain rfl := Except.ok.inj h
        obtain rfl := Kdl.string?_eq_some.mp hs
        simp only [Bool.or_eq_true, not_or, Bool.not_eq_true, Bool.not_eq_false',
          List.isEmpty_iff] at halone
        obtain ⟨⟨rfl, hproperties⟩, hbraces⟩ := halone
        refine .path ?_ (Option.not_isSome_iff_eq_none.mp ?_)
        · rw [Kdl.Node.entries_kept]
          exact entries_eq_singleton harguments hproperties
        · rw [Kdl.Node.isSome_children_kept, hbraces]
          exact Bool.false_ne_true
      · cases h
  · rintro (⟨hentries, hchildren⟩ | ⟨fs, gs, hfs, hgs, rfl⟩)
    · rw [← ofNode_kept]
      simp [ofNode, Kdl.Node.arguments, hentries, hchildren, Kdl.Entry.argument?,
        Kdl.Entry.isProperty, Kdl.Value.string?]
    · rw [Kdl.Node.entries_kept] at hfs
      rw [Kdl.Node.children_kept] at hgs
      have hentries : Directive.addEntries {} n.entries = .ok (fs.foldl Directive.set {}) :=
        Directive.addEntries_eq_ok_iff.mpr ⟨fs, hfs, rfl⟩
      have hchildren : (fs.foldl Directive.set {}).addChildren (n.children.getD []) =
          .ok ((fs ++ gs).foldl Directive.set {}) :=
        Directive.addChildren_eq_ok_iff.mpr ⟨gs, hgs, List.foldl_append⟩
      simp only [ofNode, Kdl.Node.arguments, Directive.filterMap_argument?_eq_nil hfs, hentries,
        hchildren]

theorem listOfNodes_kept (nodes : List Kdl.Node) :
    listOfNodes (nodes.map Kdl.Node.kept) = listOfNodes nodes := by
  induction nodes with
  | nil => rfl
  | cons n rest ih => simp only [List.map_cons, listOfNodes, Kdl.Node.name_kept, ofNode_kept, ih]

theorem listOfNodes_eq_ok_iff {nodes : List Kdl.Node} {includes : List Include} :
    listOfNodes nodes = .ok includes ↔ List.Forall₂ ReadFrom includes
      ((nodes.filter (·.name == "include")).map Kdl.Node.kept) := by
  induction nodes generalizing includes with
  | nil => simp [listOfNodes, eq_comm]
  | cons n rest ih =>
    rw [listOfNodes]
    split
    · next hname =>
      rw [List.filter_cons_of_pos (by simpa using hname), List.map_cons]
      simp only [List.forall₂_cons_right_iff, ← ih, ← ofNode_eq_ok_iff]
      cases ofNode n with
      | error fault => simp
      | ok i => cases listOfNodes rest <;> simp [eq_comm]
    · next hname => rw [List.filter_cons_of_neg (by simpa using hname), ih]

/-- **What is read of a document.** The parts of its nodes that are passed over make no difference,
not even to a fault. Includes are read from it just if what is kept of its nodes writes them in
full. And a node is kept as it is just if there is no part in it that is passed over. -/
theorem listOfNodes_reads_kept (nodes : List Kdl.Node) :
    listOfNodes (nodes.map Kdl.Node.kept) = listOfNodes nodes ∧
    (∀ includes, listOfNodes nodes = .ok includes ↔ List.Forall₂ ReadFrom includes
      ((nodes.filter (·.name == "include")).map Kdl.Node.kept)) ∧
    ∀ n : Kdl.Node, n.kept = n ↔ n.IsWhole :=
  ⟨listOfNodes_kept nodes, fun _ => listOfNodes_eq_ok_iff, fun _ => Kdl.Node.kept_eq_self_iff⟩

/-- Includes that lose a part each: what stands beside the rules, a clause of a rule, a path of a
rule and a file. -/
def lossy : List Kdl.Node :=
  [.mk "include" [.property "local" (.string "a.yml")] (some [
      .mk "rules" [.argument (.string "never"), .property "when" (.string "never")] none]),
    .mk "include" [.property "local" (.string "a.yml")] (some [
      .mk "rules" [] (some [
        .mk "rule" [] (some [.mk "if" [.argument (.string "$X")] none])])]),
    .mk "include" [.property "local" (.string "a.yml")] (some [
      .mk "rules" [] (some [
        .mk "rule" [] (some [
          .mk "exists" [.argument (.integer 1), .property "path" (.string "b")] none])])]),
    .mk "include" [.property "project" (.string "g")] (some [
      .mk "file" [.argument (.string "x.yml"), .argument (.bool true),
        .property "path" (.string "y.yml")] none])]

/-- They are taken, with empty rules or empty clauses or a file less. -/
theorem lossy_read :
    lossy.map ofNode =
      [.ok (.directive { localPath := "a.yml", rules := some [] }),
        .ok (.directive { localPath := "a.yml", rules := some [{}] }),
        .ok (.directive { localPath := "a.yml", rules := some [{}] }),
        .ok (.directive { project := "g", file := some (.many ["x.yml"]) })] ∧
    ∀ n ∈ lossy, ∀ i, ofNode n = .ok i → ¬ i.ReadFrom n := by
  have hlossy : ∀ n ∈ lossy, ¬ n.IsWhole := by decide
  exact ⟨by decide, fun n hn i _ hread => hlossy n hn hread.isWhole⟩

end Include

end IncludeTree
