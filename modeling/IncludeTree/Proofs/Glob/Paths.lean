import IncludeTree.Proofs.Glob.Language
import IncludeTree.Proofs.Glob.Segments
import IncludeTree.Proofs.Text.Utf8

/-!
# Which paths the segments of a pattern match

The tokens of a pattern stand for bytes, its segments for the characters of the segments of a path.
That the two agree has two sides.

* A star stands for bytes, and those may end inside a character. What follows does not start there,
  so it stands for what is behind the character as well (`covers_of_inner`), and the star may take
  the character whole. So characters and stars stand for the bytes of just the texts without a slash
  that they `Fits` (`covers_text`).
* A tree takes the slashes at its sides into its token. Whatever it stands for ends where a segment
  of the path does, so that it goes past some of the segments and nothing else (`fitsAll_tree`).

`matchesBytes_opening` puts them together, by induction on the segments.
-/

namespace IncludeTree.Glob

open Text

variable {s u v chars : List Char} {bs k : List UInt8} {tokens : List Token}

/-! ## Characters and stars -/

/-- Whether tokens stand for nothing but the end and what starts with a slash. -/
def Anchored (tokens : List Token) : Prop :=
  ∀ bs, Covers tokens bs → bs = [] ∨ bs.head? = some slash

theorem covers_ofChar_cons {c : Char} (hc : c ≠ '*') :
    Covers (Token.ofChar c :: tokens) bs ↔
      ∃ later, bs = String.utf8EncodeChar c ++ later ∧ Covers tokens later := by
  simp [Token.ofChar, hc, Covers, Token.Covers]

theorem covers_ofChar_star :
    Covers (Token.ofChar '*' :: tokens) bs ↔
      ∃ first later, bs = first ++ later ∧ slash ∉ first ∧ Covers tokens later := by
  simp [Token.ofChar, Covers, Token.Covers]

theorem utf8EncodeChar_slash : String.utf8EncodeChar '/' = [slash] := rfl

/-- Inside a character no slash starts. -/
theorem head?_ne_slash_of_inner (hinner : Inner k) (hk : k ≠ []) :
    (k ++ bs).head? ≠ some slash := by
  intro hslash
  obtain ⟨later, heq⟩ := List.head?_eq_some_iff.mp hslash
  exact hinner.ne_utf8EncodeChar_append hk heq (c := '/')

/-- The byte of a slash is that of the character. -/
theorem slash_mem_bytes : slash ∈ bytes s ↔ '/' ∈ s := by
  constructor
  · intro h
    obtain ⟨u, v, heq⟩ := List.append_of_mem h
    obtain ⟨s₁, s₂, rfl, -, -⟩ := exists_append_of_bytes_eq (c := '/') heq
    exact List.mem_append_right s₁ List.mem_cons_self
  · intro h
    obtain ⟨s₁, s₂, rfl⟩ := List.append_of_mem h
    rw [bytes_append, bytes_cons, utf8EncodeChar_slash]
    exact List.mem_append_right _ List.mem_cons_self

/-- What characters and stars stand for inside a character they stand for behind it too. -/
theorem covers_of_inner (hanchored : Anchored tokens) (hinner : Inner k) (hk : k ≠ [])
    (h : Covers (chars.map Token.ofChar ++ tokens) (k ++ bs)) :
    Covers (chars.map Token.ofChar ++ tokens) bs := by
  induction chars generalizing k with
  | nil =>
    rcases hanchored _ h with hnil | hslash
    · exact absurd (List.append_eq_nil_iff.mp hnil).1 hk
    · exact absurd hslash (head?_ne_slash_of_inner hinner hk)
  | cons c chars ih =>
    rw [List.map_cons, List.cons_append] at h ⊢
    by_cases hc : c = '*'
    · subst hc
      rw [covers_ofChar_star] at h ⊢
      obtain ⟨first, later, heq, hfirst, hlater⟩ := h
      rcases List.append_eq_append_iff.mp heq with ⟨w, rfl, rfl⟩ | ⟨k', rfl, rfl⟩
      · exact ⟨w, later, rfl, fun hw => hfirst (List.mem_append_right _ hw), hlater⟩
      · by_cases hk' : k' = []
        · subst hk'
          exact ⟨[], bs, rfl, List.not_mem_nil, hlater⟩
        · exact ⟨[], bs, rfl, List.not_mem_nil,
            ih (fun b hb => hinner b (List.mem_append_right _ hb)) hk' hlater⟩
    · rw [covers_ofChar_cons hc] at h
      obtain ⟨later, heq, -⟩ := h
      exact absurd heq (hinner.ne_utf8EncodeChar_append hk)

/-- A character stands for itself. -/
theorem covers_char_text {c : Char} (hc : c ≠ '*') :
    Covers (Token.ofChar c :: tokens) (bytes s) ↔ ∃ t, s = c :: t ∧ Covers tokens (bytes t) := by
  rw [covers_ofChar_cons hc]
  constructor
  · rintro ⟨later, heq, hlater⟩
    obtain ⟨t, rfl, rfl⟩ := exists_cons_of_bytes_eq heq
    exact ⟨t, rfl, hlater⟩
  · rintro ⟨t, rfl, ht⟩
    exact ⟨bytes t, bytes_cons c t, ht⟩

/-- A star stands for the texts without a slash. Where it ends inside a character, it can be taken
to the end of that. -/
theorem covers_star_text (hanchored : Anchored tokens) :
    Covers (Token.ofChar '*' :: (chars.map Token.ofChar ++ tokens)) (bytes s) ↔
      ∃ u v, s = u ++ v ∧ '/' ∉ u ∧ Covers (chars.map Token.ofChar ++ tokens) (bytes v) := by
  rw [covers_ofChar_star]
  constructor
  · rintro ⟨first, later, heq, hfirst, hlater⟩
    rcases bytes_eq_append heq with ⟨u, v, rfl, rfl, rfl⟩ |
      ⟨u, c, v, j, k, rfl, hc, hj, hk, hinner, rfl, rfl⟩
    · exact ⟨u, v, rfl, mt slash_mem_bytes.mpr hfirst, hlater⟩
    · have hne : c ≠ '/' := by
        rintro rfl
        rcases List.singleton_eq_append_iff.mp hc with ⟨hj', -⟩ | ⟨-, hk'⟩
        · exact hj hj'
        · exact hk hk'
      have hu : '/' ∉ u := fun h => hfirst (List.mem_append_left j (slash_mem_bytes.mpr h))
      refine ⟨u ++ [c], v, by simp, ?_, covers_of_inner hanchored hinner hk hlater⟩
      simp [hu, hne.symm]
  · rintro ⟨u, v, rfl, hu, hv⟩
    exact ⟨bytes u, bytes v, bytes_append u v, mt slash_mem_bytes.mp hu, hv⟩

/-- **Characters and stars** stand for the texts without a slash that they fit. -/
theorem covers_text (hanchored : Anchored tokens) (hchars : '/' ∉ chars) :
    Covers (chars.map Token.ofChar ++ tokens) (bytes s) ↔
      ∃ u v, s = u ++ v ∧ '/' ∉ u ∧ Fits chars u ∧ Covers tokens (bytes v) := by
  constructor
  · induction chars generalizing s with
    | nil => exact fun h => ⟨[], s, rfl, List.not_mem_nil, .nil, h⟩
    | cons c chars ih =>
      rw [List.mem_cons, not_or] at hchars
      rw [List.map_cons, List.cons_append]
      by_cases hc : c = '*'
      · subst hc
        rw [covers_star_text hanchored]
        rintro ⟨skipped, t, rfl, hskipped, ht⟩
        obtain ⟨u, v, rfl, hu, hfits, hv⟩ := ih hchars.2 ht
        exact ⟨skipped ++ u, v, by simp, by simp [hskipped, hu], .star skipped hfits, hv⟩
      · rw [covers_char_text hc]
        rintro ⟨t, rfl, ht⟩
        obtain ⟨u, v, rfl, hu, hfits, hv⟩ := ih hchars.2 ht
        exact ⟨c :: u, v, rfl, by simp [hchars.1, hu], .literal hc hfits, hv⟩
  · rintro ⟨u, v, rfl, hu, hfits, hv⟩
    induction hfits with
    | nil => simpa using hv
    | star skipped _ ih =>
      rw [List.mem_append, not_or] at hu
      rw [List.mem_cons, not_or] at hchars
      rw [List.append_assoc, List.map_cons, List.cons_append, covers_star_text hanchored]
      exact ⟨_, _, rfl, hu.1, ih hchars.2 hu.2⟩
    | literal hc _ ih =>
      rw [List.mem_cons, not_or] at hu hchars
      rw [List.cons_append, List.map_cons, List.cons_append, covers_char_text hc]
      exact ⟨_, rfl, ih hchars.2 hu.2⟩

/-! ## Segments -/

/-- The segments of a path. -/
def segmentsOf (s : List Char) : List (List Char) := s.splitOn '/'

theorem segmentsOf_append_slash (u v : List Char) :
    segmentsOf (u ++ '/' :: v) = segmentsOf u ++ segmentsOf v :=
  List.splitOn_append_cons_self ..

theorem segmentsOf_eq_singleton (h : '/' ∉ u) : segmentsOf u = [u] :=
  List.splitOn_eq_singleton h

theorem segmentsOf_ne_nil (s : List Char) : segmentsOf s ≠ [] := fun h => List.splitOn_ne_nil _ _ h

/-- A path is one segment, or it is taken apart at its first slash. -/
theorem segmentsOf_cases (s : List Char) :
    segmentsOf s = [s] ∧ '/' ∉ s ∨
      ∃ u v, s = u ++ '/' :: v ∧ '/' ∉ u ∧ segmentsOf s = u :: segmentsOf v := by
  by_cases h : '/' ∈ s
  · obtain ⟨u, v, rfl, hu⟩ := List.eq_append_cons_of_mem h
    refine .inr ⟨u, v, rfl, hu, ?_⟩
    rw [segmentsOf_append_slash, segmentsOf_eq_singleton hu]
    rfl
  · exact .inl ⟨segmentsOf_eq_singleton h, h⟩

/-- What is left of the segments of a path is a path behind one of its slashes, unless all are. -/
theorem segmentsOf_eq_append {skipped texts : List (List Char)} (htexts : texts ≠ [])
    (h : segmentsOf s = skipped ++ texts) :
    skipped = [] ∨ ∃ u v, s = u ++ '/' :: v ∧ texts = segmentsOf v := by
  induction skipped generalizing s with
  | nil => exact .inl rfl
  | cons text skipped ih =>
    refine .inr ?_
    rcases segmentsOf_cases s with ⟨heq, -⟩ | ⟨u, v, rfl, -, heq⟩
    · obtain ⟨-, hnil⟩ := List.cons.inj (heq.symm.trans h)
      exact absurd (List.append_eq_nil_iff.mp hnil.symm).2 htexts
    · obtain ⟨-, hv⟩ := List.cons.inj (heq.symm.trans h)
      rcases ih hv with rfl | ⟨u', v', rfl, rfl⟩
      · exact ⟨u, v, rfl, hv.symm⟩
      · exact ⟨u ++ '/' :: u', v', by simp, rfl⟩

variable {rest segments : List Segment} {texts : List (List Char)}

theorem FitsAll.ne_nil (h : FitsAll segments texts) (hsegments : segments ≠ []) : texts ≠ [] := by
  induction h with
  | nil => exact absurd rfl hsegments
  | text _ _ _ => exact List.cons_ne_nil _ _
  | tree skipped hrest _ ih => exact List.append_ne_nil_of_right_ne_nil skipped (ih hrest)
  | last htexts => exact htexts

theorem fitsAll_nil : FitsAll [] texts ↔ texts = [] := by
  constructor
  · rintro ⟨⟩
    rfl
  · rintro rfl
    exact .nil

theorem fitsAll_text_cons {text : List Char} :
    FitsAll (.text chars :: rest) (text :: texts) ↔ Fits chars text ∧ FitsAll rest texts := by
  constructor
  · rintro ⟨⟩
    exact ⟨‹_›, ‹_›⟩
  · rintro ⟨hfits, hrest⟩
    exact .text hfits hrest

/-- A text in front of others stands for the path up to its first slash. -/
theorem fitsAll_text :
    FitsAll (.text chars :: rest) (segmentsOf s) ↔ ∃ u v, s = u ++ v ∧ '/' ∉ u ∧ Fits chars u ∧
      ((rest = [] ∧ v = []) ∨ (rest ≠ [] ∧ ∃ w, v = '/' :: w ∧ FitsAll rest (segmentsOf w))) := by
  constructor
  · intro h
    rcases segmentsOf_cases s with ⟨heq, hs⟩ | ⟨u, v, rfl, hu, heq⟩
    · obtain ⟨hfits, hrest⟩ := fitsAll_text_cons.mp (heq ▸ h)
      have hnil : rest = [] := Classical.not_not.mp fun hne => hrest.ne_nil hne rfl
      exact ⟨s, [], by simp, hs, hfits, .inl ⟨hnil, rfl⟩⟩
    · obtain ⟨hfits, hrest⟩ := fitsAll_text_cons.mp (heq ▸ h)
      refine ⟨u, '/' :: v, rfl, hu, hfits, .inr ⟨?_, v, rfl, hrest⟩⟩
      rintro rfl
      exact segmentsOf_ne_nil v (fitsAll_nil.mp hrest)
  · rintro ⟨u, v, rfl, hu, hfits, ⟨rfl, rfl⟩ | ⟨-, w, rfl, hw⟩⟩
    · rw [List.append_nil, segmentsOf_eq_singleton hu]
      exact .text hfits .nil
    · rw [segmentsOf_append_slash, segmentsOf_eq_singleton hu]
      exact .text hfits hw

/-- A tree in front of others goes past nothing, or past all up to some slash. -/
theorem fitsAll_tree (hrest : rest ≠ []) :
    FitsAll (.tree :: rest) (segmentsOf s) ↔
      FitsAll rest (segmentsOf s) ∨ ∃ u v, s = u ++ '/' :: v ∧ FitsAll rest (segmentsOf v) := by
  constructor
  · generalize htexts : segmentsOf s = texts
    intro h
    cases h with
    | tree skipped _ h =>
      rcases segmentsOf_eq_append (h.ne_nil hrest) htexts with rfl | ⟨u, v, rfl, rfl⟩
      · exact .inl h
      · exact .inr ⟨u, v, rfl, h⟩
    | last _ => exact absurd rfl hrest
  · rintro (h | ⟨u, v, rfl, h⟩)
    · exact .tree [] hrest h
    · rw [segmentsOf_append_slash]
      exact .tree _ hrest h

/-! ## Patterns -/

theorem covers_leadingTree : Covers (.leadingTree :: tokens) (bytes s) ↔
    Covers tokens (bytes s) ∨ ∃ u v, s = u ++ '/' :: v ∧ Covers tokens (bytes v) := by
  constructor
  · rintro ⟨first, later, heq, rfl | ⟨within, rfl⟩, hlater⟩
    · exact .inl (heq ▸ hlater)
    · rw [List.append_assoc] at heq
      obtain ⟨u, v, rfl, rfl, rfl⟩ := exists_append_of_bytes_eq (c := '/') heq
      exact .inr ⟨u, v, rfl, hlater⟩
  · rintro (h | ⟨u, v, rfl, h⟩)
    · exact ⟨[], bytes s, rfl, .inl rfl, h⟩
    · refine ⟨bytes u ++ [slash], bytes v, ?_, .inr ⟨_, rfl⟩, h⟩
      simp [utf8EncodeChar_slash]

/-- A tree between slashes is a slash and a tree at the start. -/
theorem covers_innerTree : Covers (.innerTree :: tokens) bs ↔
    ∃ later, bs = slash :: later ∧ Covers (.leadingTree :: tokens) later := by
  constructor
  · rintro ⟨first, later, rfl, rfl | ⟨within, rfl⟩, hlater⟩
    · exact ⟨later, rfl, [], later, rfl, .inl rfl, hlater⟩
    · exact ⟨within ++ [slash] ++ later, rfl, _, later, rfl, .inr ⟨within, rfl⟩, hlater⟩
  · rintro ⟨_, rfl, first, later, rfl, rfl | ⟨within, rfl⟩, hlater⟩
    · exact ⟨[slash], later, rfl, .inl rfl, hlater⟩
    · exact ⟨slash :: (within ++ [slash]), later, rfl, .inr ⟨within, rfl⟩, hlater⟩

/-- Behind other segments there is a slash in front of what stands for the segments themselves. -/
theorem covers_following (hrest : rest ≠ []) : Covers (following rest) bs ↔
    ∃ later, bs = slash :: later ∧ (rest = [.tree] ∨ Covers (opening rest) later) := by
  match rest with
  | [.tree] => simp [following, Covers, Token.Covers]
  | .tree :: t :: rest => simp [following, opening, covers_innerTree]
  | .text chars :: rest =>
    simp [following, opening, Covers, Token.Covers, utf8EncodeChar_slash]

theorem covers_following_bytes : Covers (following rest) (bytes v) ↔ (rest = [] ∧ v = []) ∨
    (rest ≠ [] ∧ ∃ w, v = '/' :: w ∧ (rest = [.tree] ∨ Covers (opening rest) (bytes w))) := by
  by_cases hnil : rest = []
  · subst hnil
    simp [following, Covers, bytes_eq_nil]
  · simp only [hnil, false_and, false_or, not_false_eq_true, true_and, ne_eq, covers_following hnil]
    constructor
    · rintro ⟨later, heq, hlater⟩
      obtain ⟨w, rfl, rfl⟩ := exists_cons_of_bytes_eq (c := '/') heq
      exact ⟨w, rfl, hlater⟩
    · rintro ⟨w, rfl, hw⟩
      exact ⟨bytes w, by rw [bytes_cons, utf8EncodeChar_slash]; rfl, hw⟩

theorem anchored_following (rest : List Segment) : Anchored (following rest) := by
  intro bs h
  by_cases hrest : rest = []
  · subst hrest
    exact .inl h
  · obtain ⟨later, rfl, -⟩ := (covers_following hrest).mp h
    exact .inr rfl

/-- The tokens of segments stand for the paths whose segments these stand for. A tree by itself is
left out here, as it is where patterns are matched. -/
theorem covers_opening (h : Segment.Plain segments) :
    segments = [.tree] ∨ Covers (opening segments) (bytes s) ↔ FitsAll segments (segmentsOf s) := by
  induction segments generalizing s with
  | nil => exact absurd rfl h.ne_nil
  | cons first rest ih =>
    cases first with
    | tree =>
      cases rest with
      | nil => exact iff_of_true (.inl rfl) (.last (segmentsOf_ne_nil s))
      | cons t rest =>
        have hlater : ∀ {s}, Covers (opening (t :: rest)) (bytes s) ↔
            FitsAll (t :: rest) (segmentsOf s) := by
          intro s
          rw [← ih (h.tail (List.cons_ne_nil t rest)), or_iff_right]
          exact fun htree => h.ne_tree (List.cons.inj htree).1
        rw [or_iff_right (by simp), opening, covers_leadingTree,
          fitsAll_tree (List.cons_ne_nil t rest)]
        simp only [hlater]
    | text chars =>
      have hslash : '/' ∉ chars := fun hmem => h.head.2.2 '/' hmem (by decide)
      have hrest : ∀ {v}, Covers (following rest) (bytes v) ↔ (rest = [] ∧ v = []) ∨
          (rest ≠ [] ∧ ∃ w, v = '/' :: w ∧ FitsAll rest (segmentsOf w)) := by
        intro v
        rw [covers_following_bytes]
        exact or_congr Iff.rfl (and_congr_right fun hnil => by simp only [ih (h.tail hnil)])
      rw [or_iff_right (by simp), opening, covers_text (anchored_following rest) hslash,
        fitsAll_text]
      simp only [hrest]

theorem opening_ne_nil (h : Segment.Plain segments) : opening segments ≠ [] := by
  match segments with
  | [] => exact absurd rfl h.ne_nil
  | .tree :: rest => exact List.cons_ne_nil _ _
  | .text chars :: rest =>
    exact List.append_ne_nil_of_left_ne_nil (by simpa using h.head.1) _

/-- Only a tree by itself is the token that matches every path. -/
theorem opening_eq_leadingTree (h : Segment.Plain segments) :
    opening segments = [.leadingTree] ↔ segments = [.tree] := by
  match segments with
  | [] => exact absurd rfl h.ne_nil
  | [.tree] => exact iff_of_true rfl rfl
  | .tree :: t :: rest =>
    simpa [opening] using opening_ne_nil (h.tail (List.cons_ne_nil t rest))
  | .text [] :: rest => exact absurd rfl h.head.1
  | .text (c :: chars) :: rest =>
    have hc : Token.ofChar c ≠ .leadingTree := by
      unfold Token.ofChar
      split <;> nofun
    simp [opening, hc]

/-- **What patterns match.** A pattern of segments matches the paths whose segments it stands
for. -/
theorem matchesBytes_opening (h : Segment.Plain segments) :
    matchesBytes (opening segments) (bytes s) = true ↔ FitsAll segments (segmentsOf s) := by
  rw [matchesBytes_iff, opening_eq_leadingTree h, covers_opening h]

end IncludeTree.Glob
