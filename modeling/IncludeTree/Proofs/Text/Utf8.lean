import IncludeTree.Text.Bytes
import Mathlib.Tactic.SplitIfs

/-!
# Characters in the bytes of a text

Of the bytes of a character the first can be told from the others. So the characters of a text can
be told apart in its bytes: a cut through the bytes goes between two characters or through one, and
then what stands behind the cut does not start with a character (`bytes_eq_append`). A character
that stands in the bytes of a text stands in the text (`exists_append_of_bytes_eq`).

The order of texts is that of their bytes (`bytes_lt_bytes`).
-/

namespace IncludeTree.Text

variable {c d : Char} {s t : List Char} {u v k : List UInt8}

/-! ## Single characters -/

/-- Whether bytes may stand behind the first one of a character: none of them is a first one. -/
def Inner (k : List UInt8) : Prop := ∀ b ∈ k, ¬ b.IsUTF8FirstByte

theorem exists_cons_utf8EncodeChar (c : Char) :
    ∃ first rest, String.utf8EncodeChar c = first :: rest ∧ first.IsUTF8FirstByte ∧ Inner rest := by
  have hbyte (i : Nat) (hi : i < (String.utf8EncodeChar c).length) :
      (String.utf8EncodeChar c)[i].IsUTF8FirstByte ↔ i = 0 :=
    UInt8.isUTF8FirstByte_getElem_utf8EncodeChar
  cases hc : String.utf8EncodeChar c with
  | nil => exact absurd hc String.utf8EncodeChar_ne_nil
  | cons first rest =>
    simp only [hc] at hbyte
    refine ⟨first, rest, rfl, (hbyte 0 (Nat.succ_pos _)).mpr rfl, fun b hb hfirst => ?_⟩
    obtain ⟨i, hi, rfl⟩ := List.getElem_of_mem hb
    exact Nat.succ_ne_zero i ((hbyte (i + 1) (Nat.succ_lt_succ hi)).mp hfirst)

/-- Bytes that start with a character start with no other. -/
theorem eq_of_utf8EncodeChar_append
    (h : String.utf8EncodeChar c ++ u = String.utf8EncodeChar d ++ v) : c = d ∧ u = v := by
  have hread := ByteArray.utf8DecodeChar?_utf8EncodeChar_append (b := u.toByteArray) (c := c)
  rw [← List.toByteArray_append, h, List.toByteArray_append,
    ByteArray.utf8DecodeChar?_utf8EncodeChar_append] at hread
  obtain rfl : d = c := Option.some.inj hread
  exact ⟨rfl, List.append_cancel_left h⟩

/-- What starts inside a character does not start with one. -/
theorem Inner.ne_utf8EncodeChar_append (hk : Inner k) (hnil : k ≠ []) :
    k ++ u ≠ String.utf8EncodeChar c ++ v := by
  obtain ⟨first, rest, hc, hfirst, -⟩ := exists_cons_utf8EncodeChar c
  cases k with
  | nil => exact absurd rfl hnil
  | cons b k =>
    intro h
    rw [hc] at h
    obtain rfl : b = first := (List.cons.inj h).1
    exact hk b List.mem_cons_self hfirst

/-- A character before another has its bytes before those of the other. -/
theorem utf8EncodeChar_append_lt (h : c < d) (u v : List UInt8) :
    String.utf8EncodeChar c ++ u < String.utf8EncodeChar d ++ v := by
  have hlt : c.val.toNat < d.val.toNat := h
  have hd : d.val.toNat < 0x110000 := by
    rcases d.valid with h | ⟨-, h⟩
    · exact Nat.lt_trans h (by decide)
    · exact h
  -- all digits to the base 64 from the same quotients
  have hdigits (n : Nat) : n / 4096 = n / 64 / 64 ∧ n / 262144 = n / 64 / 64 / 64 := by omega
  unfold String.utf8EncodeChar
  generalize c.val.toNat = m, d.val.toNat = n at hlt hd
  simp only [hdigits]
  split_ifs <;>
    simp only [List.cons_append, List.nil_append, List.cons_lt_cons_iff, UInt8.lt_iff_toNat_lt,
      UInt8.toNat_ofNat', ← UInt8.toNat_inj] <;>
    omega

/-! ## Texts -/

theorem bytes_eq_nil : bytes s = [] ↔ s = [] := by
  cases s with
  | nil => exact iff_of_true rfl rfl
  | cons c s => simp [String.utf8EncodeChar_ne_nil]

/-- A text whose bytes start with a character starts with it. -/
theorem exists_cons_of_bytes_eq (h : bytes s = String.utf8EncodeChar c ++ v) :
    ∃ t, s = c :: t ∧ v = bytes t := by
  cases s with
  | nil =>
    rw [bytes_nil, eq_comm, List.append_eq_nil_iff] at h
    exact absurd h.1 String.utf8EncodeChar_ne_nil
  | cons d t =>
    rw [bytes_cons] at h
    obtain ⟨rfl, rfl⟩ := eq_of_utf8EncodeChar_append h
    exact ⟨t, rfl, rfl⟩

/-- **Cuts through the bytes of a text** go between two of its characters, or through one. -/
theorem bytes_eq_append (h : bytes s = u ++ v) :
    (∃ s₁ s₂, s = s₁ ++ s₂ ∧ u = bytes s₁ ∧ v = bytes s₂) ∨
    ∃ s₁ c s₂ j k, s = s₁ ++ c :: s₂ ∧ String.utf8EncodeChar c = j ++ k ∧ j ≠ [] ∧ k ≠ [] ∧
      Inner k ∧ u = bytes s₁ ++ j ∧ v = k ++ bytes s₂ := by
  induction s generalizing u with
  | nil =>
    obtain ⟨rfl, rfl⟩ := List.append_eq_nil_iff.mp h.symm
    exact .inl ⟨[], [], rfl, rfl, rfl⟩
  | cons c s ih =>
    rw [bytes_cons] at h
    rcases List.append_eq_append_iff.mp h with ⟨w, rfl, hs⟩ | ⟨k, hc, rfl⟩
    · -- the character stands in front of the cut
      rcases ih hs with
        ⟨s₁, s₂, rfl, rfl, rfl⟩ | ⟨s₁, d, s₂, j, k, rfl, hd, hj, hk, hinner, rfl, rfl⟩
      · exact .inl ⟨c :: s₁, s₂, rfl, (bytes_cons c s₁).symm, rfl⟩
      · refine .inr ⟨c :: s₁, d, s₂, j, k, rfl, hd, hj, hk, hinner, ?_, rfl⟩
        rw [bytes_cons, List.append_assoc]
    · by_cases hu : u = []
      · subst hu
        exact .inl ⟨[], c :: s, rfl, rfl, by rw [bytes_cons, hc]; rfl⟩
      by_cases hk : k = []
      · subst hk
        exact .inl ⟨[c], s, rfl, by simp [hc], rfl⟩
      · obtain ⟨first, rest, hc', -, hrest⟩ := exists_cons_utf8EncodeChar c
        obtain ⟨b, j, rfl⟩ := List.exists_cons_of_ne_nil hu
        have hinner : Inner k := fun x hx => by
          have hrest' : rest = j ++ k := (List.cons.inj (hc'.symm.trans hc)).2
          exact hrest x (hrest' ▸ List.mem_append_right j hx)
        exact .inr ⟨[], c, s, b :: j, k, rfl, hc, hu, hk, hinner, rfl, rfl⟩

/-- A character that stands in the bytes of a text stands in the text. -/
theorem exists_append_of_bytes_eq (h : bytes s = u ++ (String.utf8EncodeChar c ++ v)) :
    ∃ s₁ s₂, s = s₁ ++ c :: s₂ ∧ u = bytes s₁ ∧ v = bytes s₂ := by
  rcases bytes_eq_append h with
    ⟨s₁, s₂, rfl, rfl, hv⟩ | ⟨s₁, d, s₂, j, k, -, -, -, hk, hinner, -, hv⟩
  · obtain ⟨t, rfl, rfl⟩ := exists_cons_of_bytes_eq hv.symm
    exact ⟨s₁, t, rfl, rfl, rfl⟩
  · exact absurd hv.symm (hinner.ne_utf8EncodeChar_append hk)

/-- **The order of texts is that of their bytes.** -/
theorem bytes_lt_bytes (h : s < t) : bytes s < bytes t := by
  induction h with
  | @nil c t =>
    obtain ⟨first, rest, hc, -, -⟩ := exists_cons_utf8EncodeChar c
    rw [bytes_nil, bytes_cons, hc]
    exact List.nil_lt_cons _ _
  | rel hlt =>
    rw [bytes_cons, bytes_cons]
    exact utf8EncodeChar_append_lt hlt _ _
  | cons _ ih =>
    rw [bytes_cons, bytes_cons]
    exact List.append_left_lt ih

end IncludeTree.Text
