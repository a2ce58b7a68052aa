import IncludeTree.Kdl.Basic

/-!
# The parts of an include node

An include node gives lists of texts, of files in `file` and of paths in the `exists` of its rules,
and it gives rules in `rules`. Some parts have no place in that: the entries of `rules`, the
children of a rule that are not named `exists`, and in both kinds of lists whatever is no text.

`Node.IsWhole` asks that a node has none of these parts and `Node.kept` leaves them out, from the
lists up to the node. What is kept is whole, and a whole node is kept as it is
(`Node.kept_eq_self_iff`).
-/

namespace IncludeTree.Kdl

theorem string?_eq_some {v : Value} {text : String} :
    v.string? = some text ↔ v = .string text := by
  cases v <;> simp [Value.string?]

namespace Entry

/-- The text of an argument that is one. -/
def text? : Entry → Option String
  | argument v => v.string?
  | property _ _ => none

theorem text?_eq_some {e : Entry} {text : String} :
    e.text? = some text ↔ e = .argument (.string text) := by
  constructor
  · intro h
    obtain ⟨v⟩ | ⟨key, v⟩ := e
    · rw [string?_eq_some.mp h]
    · cases h
  · rintro rfl
    rfl

end Entry

namespace Node

/-! ## What is kept and what is whole -/

/-- Whether a node is a list of texts: they are its arguments, and there is nothing else in it. -/
def Lists (n : Node) (texts : List String) : Prop :=
  n.entries = texts.map (fun text => .argument (.string text)) ∧ n.children.getD [] = []

/-- A node with its children changed, if it has braces. -/
def mapChildren (f : List Node → List Node) : Node → Node
  | mk name entries children => mk name entries (children.map f)

/-- A list of texts without what is no text. -/
def keptList : Node → Node
  | mk name entries children =>
    mk name (entries.filter fun e => e.text?.isSome) (children.map fun _ => [])

/-- A rule without the children that are no lists of paths. -/
def keptRule : Node → Node :=
  mapChildren fun nodes => (nodes.filter (·.name == "exists")).map keptList

/-- A child of an include without the parts that are passed over. -/
def keptChild (n : Node) : Node :=
  if n.name = "file" then n.keptList
  else if n.name = "rules" then mk n.name [] (n.children.map (List.map keptRule))
  else n

/-- An include without the parts that are passed over. -/
def kept : Node → Node := mapChildren (List.map keptChild)

/-- Whether a list of texts has nothing in it that is no text. -/
def IsWholeList (n : Node) : Prop := (∀ e ∈ n.entries, e.text?.isSome) ∧ n.children.getD [] = []

/-- Whether the children of a rule are lists of paths. -/
def IsWholeRule (n : Node) : Prop :=
  ∀ c ∈ n.children.getD [], c.name = "exists" ∧ c.IsWholeList

/-- Whether a child of an include has no part that is passed over. -/
def IsWholeChild (n : Node) : Prop :=
  (n.name = "file" → n.IsWholeList) ∧
    (n.name = "rules" → n.entries = [] ∧ ∀ r ∈ n.children.getD [], r.IsWholeRule)

/-- Whether an include has no part that is passed over. -/
def IsWhole (n : Node) : Prop := ∀ c ∈ n.children.getD [], c.IsWholeChild

instance : DecidablePred IsWholeList := fun _ => inferInstanceAs (Decidable (_ ∧ _))

instance : DecidablePred IsWholeRule := fun _ => inferInstanceAs (Decidable (∀ _ ∈ _, _))

instance : DecidablePred IsWholeChild := fun _ => inferInstanceAs (Decidable (_ ∧ _))

instance : DecidablePred IsWhole := fun _ => inferInstanceAs (Decidable (∀ _ ∈ _, _))

/-! ## Names, entries and children -/

variable {n : Node} {texts : List String}

@[simp] theorem name_keptList (n : Node) : n.keptList.name = n.name := by cases n; rfl

@[simp] theorem name_mapChildren (f : List Node → List Node) (n : Node) :
    (n.mapChildren f).name = n.name := by cases n; rfl

@[simp] theorem entries_mapChildren (f : List Node → List Node) (n : Node) :
    (n.mapChildren f).entries = n.entries := by cases n; rfl

@[simp] theorem children_mapChildren (f : List Node → List Node) (n : Node) :
    (n.mapChildren f).children = n.children.map f := by cases n; rfl

theorem getD_map_children {f : List Node → List Node} (hf : f [] = [])
    (children : Option (List Node)) : (children.map f).getD [] = f (children.getD []) := by
  cases children with
  | none => exact hf.symm
  | some nodes => rfl

theorem mapChildren_eq_self {f : List Node → List Node}
    (h : f (n.children.getD []) = n.children.getD []) : n.mapChildren f = n := by
  obtain ⟨name, entries, _ | nodes⟩ := n
  · rfl
  · exact congrArg (mk name entries) (congrArg some h)

@[simp] theorem name_keptRule (n : Node) : n.keptRule.name = n.name := name_mapChildren _ n

@[simp] theorem name_kept (n : Node) : n.kept.name = n.name := name_mapChildren _ n

@[simp] theorem name_keptChild (n : Node) : n.keptChild.name = n.name := by
  unfold keptChild
  split
  · exact name_keptList n
  · split <;> rfl

@[simp] theorem entries_kept (n : Node) : n.kept.entries = n.entries := entries_mapChildren _ n

@[simp] theorem isSome_children_kept (n : Node) :
    n.kept.children.isSome = n.children.isSome := by
  rw [kept, children_mapChildren, Option.isSome_map]

theorem children_keptRule (n : Node) : n.keptRule.children.getD [] =
    ((n.children.getD []).filter (·.name == "exists")).map keptList := by
  rw [keptRule, children_mapChildren, getD_map_children rfl]

theorem keptChild_of_file (h : n.name = "file") : n.keptChild = n.keptList := if_pos h

theorem keptChild_of_rules (h : n.name = "rules") :
    n.keptChild = mk n.name [] (n.children.map (List.map keptRule)) := by
  rw [keptChild, if_neg (by simp [h]), if_pos h]

theorem children_keptChild (h : n.name = "rules") :
    n.keptChild.children.getD [] = (n.children.getD []).map keptRule := by
  rw [keptChild_of_rules h, children, getD_map_children rfl]

theorem children_kept (n : Node) :
    n.kept.children.getD [] = (n.children.getD []).map keptChild := by
  rw [kept, children_mapChildren, getD_map_children rfl]

/-! ## Lists of texts -/

theorem stringArguments_eq (n : Node) : n.stringArguments = n.entries.filterMap Entry.text? := by
  unfold stringArguments arguments
  rw [List.filterMap_filterMap]
  congr
  funext e
  cases e <;> rfl

theorem stringArguments_keptList (n : Node) : n.keptList.stringArguments = n.stringArguments := by
  obtain ⟨name, entries, children⟩ := n
  simp only [stringArguments_eq, keptList, Node.entries, List.filterMap_filter]
  congr
  funext e
  cases e.text? <;> rfl

/-- A node is a list of texts if there is nothing else in it, and then these are the texts that are
read from it. -/
theorem lists_iff : n.Lists texts ↔ n.IsWholeList ∧ texts = n.stringArguments := by
  rw [stringArguments_eq]
  constructor
  · rintro ⟨hentries, hchildren⟩
    rw [IsWholeList, hentries]
    refine ⟨⟨by simp [Entry.text?, Value.string?], hchildren⟩, ?_⟩
    simp [List.filterMap_map, Function.comp_def, Entry.text?, Value.string?]
  · rintro ⟨⟨hentries, hchildren⟩, rfl⟩
    refine ⟨?_, hchildren⟩
    generalize n.entries = entries at hentries
    induction entries with
    | nil => rfl
    | cons e entries ih =>
      obtain ⟨he, hentries⟩ := List.forall_mem_cons.mp hentries
      obtain ⟨text, htext⟩ := Option.isSome_iff_exists.mp he
      rw [List.filterMap_cons_some htext, List.map_cons, ← ih hentries,
        Entry.text?_eq_some.mp htext]

theorem isWholeList_keptList (n : Node) : n.keptList.IsWholeList := by
  obtain ⟨name, entries, children⟩ := n
  refine ⟨fun e he => (List.mem_filter.mp he).2, ?_⟩
  cases children <;> rfl

/-- What is kept of a list is the list of the texts that are read. -/
theorem lists_keptList : n.keptList.Lists texts ↔ texts = n.stringArguments := by
  rw [lists_iff, stringArguments_keptList, and_iff_right n.isWholeList_keptList]

theorem keptList_eq_self_iff : n.keptList = n ↔ n.IsWholeList := by
  refine ⟨fun h => h ▸ isWholeList_keptList n, fun ⟨hentries, hchildren⟩ => ?_⟩
  obtain ⟨name, entries, children⟩ := n
  have hfilter : entries.filter (fun e => e.text?.isSome) = entries :=
    List.filter_eq_self.mpr hentries
  rw [keptList, hfilter]
  exact mapChildren_eq_self (f := fun _ => []) hchildren.symm

/-! ## Rules and includes -/

theorem isWholeRule_keptRule (n : Node) : n.keptRule.IsWholeRule := by
  intro c hc
  rw [children_keptRule, List.mem_map] at hc
  obtain ⟨b, hb, rfl⟩ := hc
  exact ⟨by simpa using (List.mem_filter.mp hb).2, b.isWholeList_keptList⟩

theorem keptRule_eq_self_iff : n.keptRule = n ↔ n.IsWholeRule := by
  refine ⟨fun h => h ▸ isWholeRule_keptRule n, fun h => mapChildren_eq_self ?_⟩
  rw [List.filter_eq_self.mpr fun c hc => by simpa using (h c hc).1]
  have hlists := List.map_congr_left fun c hc => keptList_eq_self_iff.mpr (h c hc).2
  exact hlists.trans (List.map_id _)

theorem isWholeChild_keptChild (n : Node) : n.keptChild.IsWholeChild := by
  refine ⟨fun h => ?_, fun h => ?_⟩ <;> rw [name_keptChild] at h
  · rw [keptChild_of_file h]
    exact n.isWholeList_keptList
  · refine ⟨by rw [keptChild_of_rules h, entries], fun r hr => ?_⟩
    rw [children_keptChild h, List.mem_map] at hr
    obtain ⟨b, -, rfl⟩ := hr
    exact b.isWholeRule_keptRule

theorem keptChild_eq_self_iff : n.keptChild = n ↔ n.IsWholeChild := by
  refine ⟨fun h => h ▸ isWholeChild_keptChild n, fun h => ?_⟩
  by_cases hfile : n.name = "file"
  · rw [keptChild_of_file hfile]
    exact keptList_eq_self_iff.mpr (h.1 hfile)
  by_cases hrules : n.name = "rules"
  · obtain ⟨hentries, hchildren⟩ := h.2 hrules
    have hrules' := List.map_congr_left fun r hr => keptRule_eq_self_iff.mpr (hchildren r hr)
    have hself := mapChildren_eq_self (f := List.map keptRule) (hrules'.trans (List.map_id _))
    obtain ⟨name, entries, children⟩ := n
    obtain rfl : entries = [] := hentries
    rw [keptChild_of_rules hrules]
    exact hself
  · rw [keptChild, if_neg hfile, if_neg hrules]

theorem isWhole_kept (n : Node) : n.kept.IsWhole := by
  intro c hc
  rw [children_kept, List.mem_map] at hc
  obtain ⟨b, -, rfl⟩ := hc
  exact b.isWholeChild_keptChild

/-- An include is kept as it is just if it has no part that is passed over. -/
theorem kept_eq_self_iff : n.kept = n ↔ n.IsWhole := by
  refine ⟨fun h => h ▸ isWhole_kept n, fun h => mapChildren_eq_self ?_⟩
  have hchildren := List.map_congr_left fun c hc => keptChild_eq_self_iff.mpr (h c hc)
  exact hchildren.trans (List.map_id _)

end Node

end IncludeTree.Kdl
