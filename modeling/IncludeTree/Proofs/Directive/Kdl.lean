import IncludeTree.Directive.Kdl
import IncludeTree.Proofs.Directive.Json

/-!
# Includes written in KDL

`Include.WrittenAs` says which nodes write an include: a path is one argument, and a directive is
written field by field (`Directive.Field`), a text or a single file as a property and a list of
files or of rules as a child, in any order. A rule is written clause by clause, and there only the
order of its paths counts (`Rule.ListedAs`). A node is read as what it writes, since fields with
different keys may be set in any order (`Include.ofNode_of_writtenAs`). JSON is read in the same way
(`Include.readsBack`), so the two formats agree on every list of includes
(`Include.front_ends_agree`).
-/

namespace IncludeTree

/-! ## Rules -/

namespace Rule

/-- What one property of a rule says. -/
inductive Clause where
  | condition (text : String)
  | path (pattern : String)
  | when (verdict : When)
deriving DecidableEq, Repr

namespace Clause

/-- The property that writes a clause. -/
def entry : Clause → Kdl.Entry
  | condition text => .property "if" (.string text)
  | path pattern => .property "exists" (.string pattern)
  | when verdict => .property "when" (.string verdict.word)

/-- The condition that a clause is. -/
def condition? : Clause → Option String
  | condition text => some text
  | _ => none

/-- The path that a clause is. -/
def path? : Clause → Option String
  | path pattern => some pattern
  | _ => none

/-- The verdict that a clause is. -/
def when? : Clause → Option When
  | when verdict => some verdict
  | _ => none

end Clause

/-- Whether clauses list a rule: its condition and its verdict once each, if they are given, and its
paths one by one in their order, in any interleaving. -/
structure ListedAs (r : Rule) (clauses : List Clause) : Prop where
  condition : clauses.filterMap Clause.condition? = r.condition.toList
  paths : clauses.filterMap Clause.path? = r.paths
  when : clauses.filterMap Clause.when? = r.when.toList

/-- Whether a node writes a rule: its properties are clauses that list it. -/
inductive WrittenAs (r : Rule) : Kdl.Node → Prop where
  | clauses {clauses : List Clause} {children : Option (List Kdl.Node)} :
      r.ListedAs clauses → children.getD [] = [] →
      WrittenAs r (.mk "rule" (clauses.map Clause.entry) children)

/-- The rule with a clause added. -/
def addClause (r : Rule) : Clause → Rule
  | .condition text => { r with condition := some text }
  | .path pattern => { r with paths := r.paths ++ [pattern] }
  | .when verdict => { r with when := some verdict }

theorem addEntry_entry (r : Rule) (c : Clause) : r.addEntry c.entry = .ok (r.addClause c) := by
  cases c <;> simp [addEntry, Clause.entry, Kdl.Value.string?, addClause]

theorem addEntries_map_entry (clauses : List Clause) (r : Rule) :
    r.addEntries (clauses.map Clause.entry) = .ok (clauses.foldl addClause r) := by
  induction clauses generalizing r with
  | nil => rfl
  | cons c rest ih => simp only [List.map_cons, addEntries, addEntry_entry, ih, List.foldl_cons]

theorem getLast?_cons_or {α : Type} (a : α) (as : List α) (o : Option α) :
    (a :: as).getLast?.or o = as.getLast?.or (some a) := by
  rw [List.getLast?_cons]
  cases as.getLast? <;> rfl

theorem foldl_addClause (clauses : List Clause) (r : Rule) :
    clauses.foldl addClause r =
      { condition := (clauses.filterMap Clause.condition?).getLast?.or r.condition
        paths := r.paths ++ clauses.filterMap Clause.path?
        when := (clauses.filterMap Clause.when?).getLast?.or r.when } := by
  induction clauses generalizing r with
  | nil => simp
  | cons c rest ih =>
    rw [List.foldl_cons, ih]
    cases c <;> simp [addClause, List.filterMap_cons, Clause.condition?, Clause.path?, Clause.when?,
      getLast?_cons_or]

/-- A rule is put together again from clauses that list it. -/
theorem ListedAs.foldl_addClause_eq {r : Rule} {clauses : List Clause} (h : r.ListedAs clauses) :
    clauses.foldl addClause {} = r := by
  rw [foldl_addClause, h.condition, h.paths, h.when]
  obtain ⟨_ | condition, paths, _ | verdict⟩ := r <;> rfl

theorem ofNode_of_writtenAs {r : Rule} {n : Kdl.Node} (h : r.WrittenAs n) : ofNode n = .ok r := by
  cases h with
  | @clauses clauses children hlisted hchildren =>
    have hentries := addEntries_map_entry clauses {}
    rw [hlisted.foldl_addClause_eq] at hentries
    simp [ofNode, Kdl.Node.entries, Kdl.Node.children, hentries, hchildren]

theorem ofNodes_of_writtenAs {rs : List Rule} {nodes : List Kdl.Node}
    (h : List.Forall₂ WrittenAs rs nodes) : ofNodes nodes = .ok rs := by
  induction h with
  | nil => rfl
  | @cons r n _ _ hr _ ih =>
    have hname : n.name = "rule" := by cases hr; rfl
    simp only [ofNodes, hname, if_true, ofNode_of_writtenAs hr, ih]

/-- The clauses of a rule, its paths between its condition and its verdict. -/
def clauses (r : Rule) : List Clause :=
  r.condition.toList.map .condition ++ r.paths.map .path ++ r.when.toList.map .when

theorem listedAs_clauses (r : Rule) : r.ListedAs r.clauses := by
  constructor <;>
    simp [clauses, List.filterMap_map, Function.comp_def, Clause.condition?, Clause.path?,
      Clause.when?]

theorem exists_writtenAs (r : Rule) : ∃ n, r.WrittenAs n :=
  ⟨.mk "rule" (r.clauses.map Clause.entry) none, .clauses r.listedAs_clauses rfl⟩

end Rule

/-! ## Directives -/

namespace Directive

/-- The text of a field that holds one, or a single file. -/
def Field.text? : Field → Option String
  | localPath text | remote text | template text | project text | artifact text | job text
  | ref text | file (.one text) => some text
  | file (.many _) | rules _ => none

/-- Whether an entry writes a field: a property with its key and its text. -/
inductive Field.WrittenAsEntry (f : Field) : Kdl.Entry → Prop where
  | property {text : String} : f.text? = some text →
      WrittenAsEntry f (.property f.key (.string text))

/-- Whether a child node writes a field: `file` with the paths of a list as its arguments, `rules`
with a node for every rule. -/
inductive Field.WrittenAsChild : Field → Kdl.Node → Prop where
  | file {paths : List String} {children : Option (List Kdl.Node)} : children.getD [] = [] →
      WrittenAsChild (.file (.many paths))
        (.mk "file" (paths.map fun path => .argument (.string path)) children)
  | rules {rs : List Rule} {children : Option (List Kdl.Node)} :
      List.Forall₂ Rule.WrittenAs rs (children.getD []) →
      WrittenAsChild (.rules rs) (.mk "rules" [] children)

/-- Whether a node writes a directive: its fields in any order, each in an entry or in a child. -/
inductive WrittenAs (d : Directive) : Kdl.Node → Prop where
  | fields {fs gs : List Field} {entries : List Kdl.Entry} {children : Option (List Kdl.Node)} :
      d.fields.Perm (fs ++ gs) → List.Forall₂ Field.WrittenAsEntry fs entries →
      List.Forall₂ Field.WrittenAsChild gs (children.getD []) →
      WrittenAs d (.mk "include" entries children)

/-- The directive with a field set; a single file joins the files that there are. -/
def set (d : Directive) : Field → Directive
  | .file (.one path) => { d with file := some (Files.add d.file path) }
  | f => d.put f

/-- Where there is no file, a file that is set has none to join. -/
theorem set_eq_put {d : Directive} {f : Field} (hfile : f.key = "file" → d.file = none) :
    d.set f = d.put f := by
  cases f with
  | file files =>
    cases files with
    | one path => simp [set, put, hfile rfl, Files.add]
    | many paths => rfl
  | _ => rfl

/-- An entry sets the field it writes. -/
theorem addEntry_eq_set (d : Directive) {f : Field} {e : Kdl.Entry} (h : f.WrittenAsEntry e) :
    d.addEntry e = .ok (d.set f) := by
  obtain ⟨htext⟩ := h
  cases f with
  | file files =>
    cases files with
    | one path =>
      obtain rfl := Option.some.inj htext
      simp [addEntry, Field.key, Kdl.Value.string?, set]
    | many paths => cases htext
  | rules rs => cases htext
  | _ =>
    obtain rfl := Option.some.inj htext
    simp [addEntry, Field.key, Kdl.Value.string?, set, put]

theorem addEntries_of_writtenAs {fs : List Field} {entries : List Kdl.Entry}
    (h : List.Forall₂ Field.WrittenAsEntry fs entries) (hnodup : (fs.map Field.key).Nodup)
    {d : Directive} (hfile : "file" ∈ fs.map Field.key → d.file = none) :
    d.addEntries entries = .ok (fs.foldl put d) := by
  induction h generalizing d with
  | nil => rfl
  | @cons f e fs entries hf _ ih =>
    rw [List.map_cons, List.nodup_cons] at hnodup
    obtain ⟨hfresh, hnodup⟩ := hnodup
    have hput : d.addEntry e = .ok (d.put f) := by
      rw [addEntry_eq_set d hf, set_eq_put fun hkey => hfile (hkey ▸ List.mem_cons_self)]
    have hrest : "file" ∈ fs.map Field.key → (d.put f).file = none := by
      intro hmem
      -- the keys being different, the file is still to come
      have hkey : f.key ≠ "file" := fun hkey => hfresh (hkey ▸ hmem)
      rw [file_put hkey]
      exact hfile (List.mem_cons_of_mem _ hmem)
    simp only [addEntries, hput, ih hnodup hrest, List.foldl_cons]

theorem stringArguments_mk (name : String) (texts : List String)
    (children : Option (List Kdl.Node)) :
    (Kdl.Node.mk name (texts.map fun text => .argument (.string text)) children).stringArguments =
      texts := by
  simp [Kdl.Node.stringArguments, Kdl.Node.arguments, Kdl.Node.entries, List.filterMap_map,
    Function.comp_def, Kdl.Entry.argument?, Kdl.Value.string?]

theorem addChild_of_writtenAs {d : Directive} {f : Field} {n : Kdl.Node}
    (h : f.WrittenAsChild n) : d.addChild n = .ok (d.put f) := by
  cases h with
  | file => simp [addChild, Kdl.Node.name, stringArguments_mk, put]
  | rules hrules =>
    have hrules := Rule.ofNodes_of_writtenAs hrules
    simp [addChild, Kdl.Node.name, Kdl.Node.children, hrules, put]

theorem addChildren_of_writtenAs {gs : List Field} {nodes : List Kdl.Node}
    (h : List.Forall₂ Field.WrittenAsChild gs nodes) (d : Directive) :
    d.addChildren nodes = .ok (gs.foldl put d) := by
  induction h generalizing d with
  | nil => rfl
  | cons hg _ ih => simp only [addChildren, addChild_of_writtenAs hg, ih, List.foldl_cons]

theorem filterMap_argument?_eq_nil {fs : List Field} {entries : List Kdl.Entry}
    (h : List.Forall₂ Field.WrittenAsEntry fs entries) :
    entries.filterMap Kdl.Entry.argument? = [] := by
  induction h with
  | nil => rfl
  | cons hf _ ih =>
    obtain ⟨_⟩ := hf
    rw [List.filterMap_cons_none rfl, ih]

theorem ofNode_of_writtenAs {d : Directive} {n : Kdl.Node} (h : d.WrittenAs n) :
    Include.ofNode n = .ok (.directive d) := by
  cases h with
  | @fields fs gs entries children hperm hentries hchildren =>
    have hnodup : (fs.map Field.key).Nodup := by
      have hkeys := (hperm.map Field.key).nodup d.nodup_map_key_fields
      rw [List.map_append] at hkeys
      exact (List.nodup_append.mp hkeys).1
    have hfold : gs.foldl put (fs.foldl put {}) = d := by
      rw [← List.foldl_append, foldl_put_of_perm hperm]
    have hentries' := addEntries_of_writtenAs hentries hnodup (d := {}) fun _ => rfl
    have hchildren' := addChildren_of_writtenAs hchildren (fs.foldl put {})
    rw [hfold] at hchildren'
    simp only [Include.ofNode, Kdl.Node.arguments, Kdl.Node.entries, Kdl.Node.children,
      filterMap_argument?_eq_nil hentries, hentries', hchildren']

theorem exists_writtenAsEntry {f : Field} (h : f.text?.isSome) : ∃ e, f.WrittenAsEntry e := by
  obtain ⟨text, htext⟩ := Option.isSome_iff_exists.mp h
  exact ⟨_, .property htext⟩

theorem exists_writtenAsChild {f : Field} (h : f.text? = none) : ∃ n, f.WrittenAsChild n := by
  cases f with
  | file files =>
    cases files with
    | one path => cases h
    | many paths =>
      exact ⟨.mk "file" (paths.map fun path => .argument (.string path)) none, .file rfl⟩
  | rules rs =>
    obtain ⟨nodes, hnodes⟩ := exists_forall₂ fun r (_ : r ∈ rs) => r.exists_writtenAs
    exact ⟨.mk "rules" [] (some nodes), .rules hnodes⟩
  | _ => cases h

theorem exists_writtenAs (d : Directive) : ∃ n, d.WrittenAs n := by
  have hsplit := List.filter_append_perm (fun f => f.text?.isSome) d.fields
  obtain ⟨entries, hentries⟩ :
      ∃ entries, List.Forall₂ Field.WrittenAsEntry
        (d.fields.filter fun f => f.text?.isSome) entries :=
    exists_forall₂ fun f hf => exists_writtenAsEntry (List.mem_filter.mp hf).2
  obtain ⟨nodes, hnodes⟩ :
      ∃ nodes, List.Forall₂ Field.WrittenAsChild
        (d.fields.filter fun f => !f.text?.isSome) nodes := by
    refine exists_forall₂ fun f hf => exists_writtenAsChild ?_
    simpa using (List.mem_filter.mp hf).2
  exact ⟨.mk "include" entries (some nodes), .fields hsplit.symm hentries hnodes⟩

end Directive

/-! ## Includes and documents -/

namespace Include

/-- Whether a node writes an include. -/
inductive WrittenAs : Include → Kdl.Node → Prop where
  | path (text : String) :
      WrittenAs (.path text) (.mk "include" [.argument (.string text)] none)
  | directive {d : Directive} {n : Kdl.Node} : d.WrittenAs n → WrittenAs (.directive d) n

theorem ofNode_of_writtenAs {i : Include} {n : Kdl.Node} (h : i.WrittenAs n) :
    ofNode n = .ok i := by
  cases h with
  | path text => rfl
  | directive hd => exact Directive.ofNode_of_writtenAs hd

theorem WrittenAs.name_eq {i : Include} {n : Kdl.Node} (h : i.WrittenAs n) :
    n.name = "include" := by
  cases h with
  | path text => rfl
  | directive hd =>
    cases hd
    rfl

theorem exists_writtenAs (i : Include) : ∃ n, i.WrittenAs n := by
  cases i with
  | path text => exact ⟨_, .path text⟩
  | directive d =>
    obtain ⟨n, hn⟩ := d.exists_writtenAs
    exact ⟨n, .directive hn⟩

/-- Whether the nodes of a document write includes: those named `include` do, one by one. -/
def WrittenInKdl (includes : List Include) (nodes : List Kdl.Node) : Prop :=
  List.Forall₂ WrittenAs includes (nodes.filter (·.name == "include"))

theorem listOfNodes_of_writtenInKdl {includes : List Include} {nodes : List Kdl.Node}
    (h : WrittenInKdl includes nodes) : listOfNodes nodes = .ok includes := by
  induction nodes generalizing includes with
  | nil =>
    cases h
    rfl
  | cons n rest ih =>
    by_cases hname : n.name = "include"
    · rw [WrittenInKdl, List.filter_cons_of_pos (by simpa using hname)] at h
      cases h with
      | cons hi hrest =>
        simp only [listOfNodes, hname, if_true, ofNode_of_writtenAs hi, ih hrest]
    · rw [WrittenInKdl, List.filter_cons_of_neg (by simpa using hname)] at h
      simp only [listOfNodes, hname, if_false, ih h]

theorem exists_writtenInKdl (includes : List Include) : ∃ nodes, WrittenInKdl includes nodes := by
  obtain ⟨nodes, hnodes⟩ := exists_forall₂ fun i (_ : i ∈ includes) => i.exists_writtenAs
  have hfilter : nodes.filter (·.name == "include") = nodes :=
    filter_eq_self_of_forall₂ (fun i n hn => by rw [hn.name_eq]; rfl) hnodes
  exact ⟨nodes, by rwa [WrittenInKdl, hfilter]⟩

theorem listOfText_of_writtenInKdl {includes : List Include} {nodes : List Kdl.Node}
    (h : WrittenInKdl includes nodes) {text : String} (htext : Kdl.parse? text = some nodes) :
    listOfText text = .ok includes := by
  simp only [listOfText, htext, listOfNodes_of_writtenInKdl h]

/-- **The two formats agree** on every list of includes. Each can write it; and from every document
that writes it, whatever the order of its fields and whatever stands in between that is no include,
that list is read. -/
theorem front_ends_agree (includes : List Include) :
    (∃ nodes, WrittenInKdl includes nodes) ∧ (∃ items, WrittenInJson includes items) ∧
    ∀ nodes items, WrittenInKdl includes nodes → WrittenInJson includes items →
      listOfNodes nodes = .ok includes ∧ listOfDocument (encodeDocument items) = .ok includes ∧
      ∀ text, Kdl.parse? text = some nodes → listOfText text = .ok includes := by
  refine ⟨exists_writtenInKdl includes, ?_, ?_⟩
  · have hencode : List.Forall₂ (fun i v => i.encode.Alike v) includes (includes.map encode) :=
      List.forall₂_map_right_iff.mpr (List.forall₂_same.mpr fun i _ => Json.Alike.refl i.encode)
    exact ⟨includes.map encode, writtenInJson_of_forall₂ hencode⟩
  · intro nodes items hnodes hitems
    have hread := listOfNodes_of_writtenInKdl hnodes
    have hdocument := listOfDocument_of_writtenInJson hitems
    exact ⟨hread, hdocument, fun text htext => listOfText_of_writtenInKdl hnodes htext⟩

/-- A path, and a directive with a list of one file and one rule. -/
def sample : List Include :=
  [.path "a", .directive
    { file := some (.many ["b"]), ref := some "r"
      rules := some [{ condition := "c", paths := ["x"] }] }]

/-- The nodes of a document that write the sample, with one of another kind in between. -/
def sampleNodes : List Kdl.Node :=
  [.mk "include" [.argument (.string "a")] none,
    .mk "stage" [] none,
    .mk "include" [.property "ref" (.string "r")] (some [
      .mk "rules" [] (some [
        .mk "rule" [.property "exists" (.string "x"), .property "if" (.string "c")] none]),
      .mk "file" [.argument (.string "b")] none])]

/-- The items of a document that write the sample, with `null` in between. -/
def sampleItems : List Json :=
  [.null, .str "a", .null,
    .obj [("file", .arr [.str "b"]), ("ref", .str "r"),
      ("rules", .arr [.obj [("if", .str "c"), ("exists", .arr [.str "x"])]])]]

/-- The condition stands behind the path that it is listed before, and the file behind the rules. -/
theorem front_ends_agree_sample :
    listOfNodes sampleNodes = .ok sample ∧
      listOfDocument (encodeDocument sampleItems) = .ok sample := by
  have hrule : Rule.ListedAs { condition := "c", paths := ["x"] } [.path "x", .condition "c"] :=
    ⟨rfl, rfl, rfl⟩
  have hfields : Directive.fields
      { file := some (.many ["b"]), ref := some "r"
        rules := some [{ condition := "c", paths := ["x"] }] } |>.Perm
      ([.ref "r"] ++ [.rules [{ condition := "c", paths := ["x"] }], .file (.many ["b"])]) := by
    decide
  have hnodes : WrittenInKdl sample sampleNodes := by
    refine .cons (.path "a") (.cons (.directive (.fields hfields ?_ ?_)) .nil)
    · exact .cons (.property rfl) .nil
    · exact .cons (.rules (.cons (.clauses hrule rfl) .nil)) (.cons (.file rfl) .nil)
  have hitems : WrittenInJson sample sampleItems :=
    .cons (Json.Alike.refl _) (.cons (Json.Alike.refl _) .nil)
  obtain ⟨-, -, hagree⟩ := front_ends_agree sample
  obtain ⟨hread, hdocument, -⟩ := hagree sampleNodes sampleItems hnodes hitems
  exact ⟨hread, hdocument⟩

/-- No rules and an empty list of rules are kept apart in both formats. -/
example :
    (listOfText "include job=a\ninclude job=a \x7brules\x7d").toOption =
        some [.directive { job := "a" }, .directive { job := "a", rules := some [] }] ∧
      (listOfDocument (encodeDocument
        [.obj [("job", .str "a")], .obj [("rules", .arr []), ("job", .str "a")]])).toOption =
        some [.directive { job := "a" }, .directive { job := "a", rules := some [] }] := by
  decide +kernel

end Include

end IncludeTree
