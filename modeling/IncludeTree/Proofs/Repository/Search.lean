import IncludeTree.Proofs.Glob.Paths
import IncludeTree.Proofs.Repository.Content
import Mathlib.Data.String.Basic

/-!
# What a search finds

A repository in memory is made by adding files to scopes. `search_segments` says what it answers to
a pattern of segments: the files of the scope whose own segments the pattern stands for, all of them
and no others, in the order of their bytes. What the scope holds is known from `search_ofList`, and
what the pattern matches from `Glob.matchesBytes_opening`; neither the order of the additions nor
the tokens of the pattern are left in the statement.
-/

namespace IncludeTree.Trees

open Glob Segment

variable {segments : List Segment}

theorem matchesPath_opening (h : Plain segments) (path : String) :
    matchesPath (opening segments) path = true ↔ FitsAll segments (segmentsOf path.toList) :=
  matchesBytes_opening h

/-- **Searches are exact.** Whatever files have been added to whatever scopes, a search for a
pattern of segments finds those of its own scope that the pattern stands for, once each, in the
strictly increasing order of their bytes. -/
theorem search_segments (h : Plain segments) (files : List (Scope × String)) (scope : Scope) :
    ∃ found, (ofList files).search scope (String.ofList (join segments)) = .ok found ∧
      found.Pairwise (fun p q => Text.bytes p.toList < Text.bytes q.toList) ∧
      ∀ path, path ∈ found ↔ (scope, path) ∈ files ∧ FitsAll segments (segmentsOf path.toList) := by
  have hown : ∀ path, path ∈ ((ofList files).find? scope).getD [] ↔ (scope, path) ∈ files :=
    fun path => mem_find?_ofList
  generalize ((ofList files).find? scope).getD [] = paths at hown
  have hsearch : (ofList files).search scope (String.ofList (join segments)) =
      .ok ((sorted paths).filter (matchesPath (opening segments))) := by
    rw [search_ofList hown, select_of_parse (parse_join h)]
    split
    · next hnil => rw [sorted_eq_nil.mpr hnil, List.filter_nil]
    · rfl
  refine ⟨_, hsearch, ?_, fun path => ?_⟩
  · refine ((pairwise_sorted paths).sublist List.filter_sublist).imp fun hlt => ?_
    exact Text.bytes_lt_bytes (String.lt_iff_toList_lt.mp hlt)
  · rw [List.mem_filter, mem_sorted, hown, matchesPath_opening h]

/-- Files of three scopes, one of them added twice. -/
def threeScopes : List (Scope × String) :=
  [(⟨"group/app", "sha1"⟩, "src/é.yml"), (⟨"group/app", "sha2"⟩, "src/é"),
    (⟨"group/app", "sha1"⟩, "sc//x/ééé"), (⟨"group/lib", "sha1"⟩, "sc/é"),
    (⟨"group/app", "sha1"⟩, "src/x/e"), (⟨"group/app", "sha1"⟩, "src/é.yml")]

theorem search_segments_threeScopes :
    Plain [.text ['s', '*', 'c'], .tree, .text ['*', 'é', '*']] ∧
    (ofList threeScopes).search ⟨"group/app", "sha1"⟩ "s*c/**/*é*" =
      .ok ["sc//x/ééé", "src/é.yml"] ∧
    ["sc//x/ééé", "src/é.yml"].Pairwise
      (fun p q => Text.bytes p.toList < Text.bytes q.toList) ∧
    ∀ path, path ∈ ["sc//x/ééé", "src/é.yml"] ↔
      (⟨"group/app", "sha1"⟩, path) ∈ threeScopes ∧
      FitsAll [.text ['s', '*', 'c'], .tree, .text ['*', 'é', '*']] (segmentsOf path.toList) := by
  have hplain : Plain [.text ['s', '*', 'c'], .tree, .text ['*', 'é', '*']] :=
    ⟨by simp, by simp [IsPlain], by decide⟩
  have htext : String.ofList (join [.text ['s', '*', 'c'], .tree, .text ['*', 'é', '*']]) =
      "s*c/**/*é*" := by decide
  have hanswer : (ofList threeScopes).search ⟨"group/app", "sha1"⟩ "s*c/**/*é*" =
      .ok ["sc//x/ééé", "src/é.yml"] := by decide +kernel
  obtain ⟨found, hsearch, hfound⟩ :=
    search_segments hplain threeScopes ⟨"group/app", "sha1"⟩
  rw [htext, hanswer] at hsearch
  obtain rfl := Except.ok.inj hsearch
  exact ⟨hplain, hanswer, hfound⟩

end IncludeTree.Trees
