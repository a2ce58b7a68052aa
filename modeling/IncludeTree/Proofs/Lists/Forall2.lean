import Mathlib.Data.List.Forall2

/-!
# Lists that are related item by item

`List.Forall₂ R as bs` says that two lists are as long and that their items are related one by one.
What is written and what writes it are related in this way, a condition and the parts of its text or
includes and the nodes of a document. Here is what one of the lists tells about the other.
-/

namespace IncludeTree

variable {α β : Type} {R : α → β → Prop} {as : List α} {bs : List β}

/-- What holds of whatever is related to something holds of every item on the right. -/
theorem forall_mem_of_forall₂ {P : β → Prop} (h : List.Forall₂ R as bs)
    (hP : ∀ a b, R a b → P b) : ∀ b ∈ bs, P b := by
  induction h with
  | nil => simp
  | cons hab _ ih => exact List.forall_mem_cons.mpr ⟨hP _ _ hab, ih⟩

theorem exists_of_mem_of_forall₂ (h : List.Forall₂ R as bs) {b : β} (hb : b ∈ bs) :
    ∃ a, R a b := by
  have hall : ∀ b ∈ bs, ∃ a, R a b := forall_mem_of_forall₂ h fun a b hab => ⟨a, hab⟩
  exact hall b hb

theorem filter_eq_self_of_forall₂ {p : β → Bool} (hp : ∀ a b, R a b → p b = true)
    (h : List.Forall₂ R as bs) : bs.filter p = bs :=
  List.filter_eq_self.mpr (forall_mem_of_forall₂ h hp)

/-- Where every item on the right is related to one value only, the other list is that of these. -/
theorem forall₂_iff_eq_map {f : β → α} (h : ∀ b ∈ bs, ∀ a, R a b ↔ a = f b) :
    List.Forall₂ R as bs ↔ as = bs.map f := by
  induction bs generalizing as with
  | nil => simp
  | cons b bs ih =>
    obtain ⟨hb, hbs⟩ := List.forall_mem_cons.mp h
    simp [List.forall₂_cons_right_iff, hb, ih hbs]

/-- Items that are all related to something make up a list that is related to another. -/
theorem exists_forall₂ (h : ∀ a ∈ as, ∃ b, R a b) : ∃ bs, List.Forall₂ R as bs := by
  induction as with
  | nil => exact ⟨[], .nil⟩
  | cons a as ih =>
    rw [List.forall_mem_cons] at h
    obtain ⟨b, hb⟩ := h.1
    obtain ⟨bs, hbs⟩ := ih h.2
    exact ⟨b :: bs, .cons hb hbs⟩

theorem exists_forall₂_of_forall (h : ∀ b ∈ bs, ∃ a, R a b) : ∃ as, List.Forall₂ R as bs := by
  obtain ⟨as, has⟩ := exists_forall₂ h
  exact ⟨as, has.flip⟩

end IncludeTree
