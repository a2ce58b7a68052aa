import IncludeTree.Source.Basic

/-!
# What the two bare directives are classified as

A directive that gives nothing but a local path is a file of the including project, unless the path
is blank (`classify?_ofLocal`), and one that gives nothing but a URL is the file behind it, if it is
one (`classify?_ofRemote`). The second asks nothing about blanks, as a blank text is no URL
(`Url.parse?_of_isBlankText`).
-/

namespace IncludeTree

/-! ## Blank texts are no URLs -/

/-- A blank has no case. -/
theorem Text.toLower_of_isBlank {c : Char} (h : isBlank c = true) : c.toLower = c := by
  unfold Char.toLower
  split
  · next hupper =>
    have hrange : 65 ≤ c.toNat ∧ c.toNat ≤ 90 := by
      simpa [UInt32.le_iff_toNat_le] using hupper
    simp only [isBlank, Bool.or_eq_true, Bool.and_eq_true, decide_eq_true_eq, beq_iff_eq] at h
    omega
  · rfl

namespace Url

theorem clean_sublist (s : List Char) : (clean s).Sublist s := by
  have hback := (List.dropWhile_sublist (l := (s.dropWhile fun c => c.toNat ≤ 0x20).reverse)
    fun c => c.toNat ≤ 0x20).reverse
  rw [List.reverse_reverse] at hback
  exact List.filter_sublist.trans (hback.trans (List.dropWhile_sublist _))

/-- A text of blanks starts with no scheme. -/
theorem readScheme?_of_blank {s : List Char} (h : ∀ c ∈ s, Text.isBlank c = true) :
    readScheme? s = none := by
  have hname : ∀ c ∈ (s.takeWhile (· != ':')).map Char.toLower, Text.isBlank c = true := by
    intro c hc
    obtain ⟨b, hb, rfl⟩ := List.mem_map.mp hc
    have hblank := h b ((List.takeWhile_sublist _).mem hb)
    rwa [Text.toLower_of_isBlank hblank]
  -- Both schemes start with the same letter.
  have hletter : ∀ rest, (s.takeWhile (· != ':')).map Char.toLower ≠ 'h' :: rest := by
    intro rest heq
    rw [heq] at hname
    cases hname 'h' List.mem_cons_self
  unfold readScheme?
  split
  · rfl
  · simp only [hletter, if_false]

theorem parse?_of_isBlankText {s : String} (h : Text.isBlankText s = true) : parse? s = none := by
  have hblank : ∀ c ∈ clean s.toList, Text.isBlank c = true := fun c hc =>
    List.all_eq_true.mp h c ((clean_sublist _).mem hc)
  unfold parse?
  rw [readScheme?_of_blank hblank]
  rfl

end Url

/-! ## The two bare directives -/

/-- The source of a directive that gives nothing but a local path. -/
def Source.ofLocal (scope : Scope) (path : String) : Source where
  target := .localFile path
  origin := { directive := .ofLocal path, scope }

/-- The source of a directive that gives nothing but a URL, as the text is read. -/
def Source.ofRemote (scope : Scope) (text : String) (url : Url) : Source where
  target := .remote url
  origin := { directive := .ofRemote text, scope }

namespace Directive

theorem ofText_of_isUrl {text : String} (h : isUrl text = true) : ofText text = ofRemote text :=
  if_pos h

theorem ofText_of_not_isUrl {text : String} (h : isUrl text = false) : ofText text = ofLocal text :=
  if_neg (by simp [h])

theorem targets_ofLocal (path : String) :
    (ofLocal path).targets = if Text.isBlankText path then [] else [.localFile path] := by
  unfold targets SourceKind.all
  cases h : Text.isBlankText path <;>
    simp [targetOf?, given, ofLocal, List.filterMap_cons, Option.filter, h]

theorem targets_ofRemote (text : String) :
    (ofRemote text).targets = ((Url.parse? text).map Target.remote).toList := by
  unfold targets SourceKind.all
  cases hparse : Url.parse? text with
  | none => simp [targetOf?, given, ofRemote, List.filterMap_cons, Option.filter, hparse]
  | some url =>
    have hblank : Text.isBlankText text = false := by
      cases h : Text.isBlankText text with
      | false => rfl
      | true => cases (Url.parse?_of_isBlankText h).symm.trans hparse
    simp [targetOf?, given, ofRemote, List.filterMap_cons, Option.filter, hblank, hparse]

theorem classify?_ofLocal (scope : Scope) (path : String) :
    (ofLocal path).classify? scope =
      if Text.isBlankText path then none else some (.ofLocal scope path) := by
  unfold classify?
  rw [targets_ofLocal]
  cases Text.isBlankText path <;> rfl

theorem classify?_ofRemote (scope : Scope) (text : String) :
    (ofRemote text).classify? scope = (Url.parse? text).map (.ofRemote scope text) := by
  unfold classify?
  rw [targets_ofRemote]
  cases Url.parse? text <;> rfl

end Directive

end IncludeTree
