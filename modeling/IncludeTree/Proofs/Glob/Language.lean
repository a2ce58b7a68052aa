import IncludeTree.Glob.Match

/-!
# What patterns cover

`Token.Covers` says which bytes a token stands for, and `Covers` which ones several tokens do, one
after the other. The matcher marks positions instead: a position is marked behind a token if a text
of the token leads there from a marked one, and then only (`reached_step`, case by case over the
tokens). So it finds all the ways through a pattern and no others: a path matches if the tokens
cover it (`matchesBytes_iff`), and `**` alone matches whatever it covers.

A mark is named by what remains of the path behind it (`Reached`), so that lists of marks and paths
are taken apart together.
-/

namespace IncludeTree.Glob

variable {path rest part : List UInt8} {ms ns : Marks} {b : UInt8} {m : Bool} {p : UInt8 → Bool}

/-! ## The bytes of tokens -/

mutual

/-- Whether a token stands for some bytes. -/
def Token.Covers : Token → List UInt8 → Prop
  | .literal c, part => part = String.utf8EncodeChar c
  | .anyByte, part => ∃ b, part = [b] ∧ b ≠ slash
  | .star, part => slash ∉ part
  | .leadingTree, part => part = [] ∨ ∃ within, part = within ++ [slash]
  | .trailingTree, part => ∃ within, part = slash :: within
  | .innerTree, part => part = [slash] ∨ ∃ within, part = slash :: (within ++ [slash])
  | .oneOf negated ranges, part => ∃ b, part = [b] ∧ inClass negated ranges b = true
  | .choice branches, part =>
    (allVoid branches = true ∧ part = []) ∨
      (allVoid branches = false ∧ AnyCovers branches part)

/-- Whether one of several branches that say something stands for some bytes. -/
def AnyCovers : List (List Token) → List UInt8 → Prop
  | [], _ => False
  | branch :: branches, part =>
    (isVoidBranch branch = false ∧ Covers branch part) ∨ AnyCovers branches part

/-- Whether tokens, one after the other, stand for some bytes. -/
def Covers : List Token → List UInt8 → Prop
  | [], part => part = []
  | t :: tokens, part => ∃ first later, part = first ++ later ∧ t.Covers first ∧ Covers tokens later

end

/-! ## Marked positions -/

/-- Whether a position is marked, by what remains of the path behind it. -/
inductive Reached : List UInt8 → Marks → List UInt8 → Prop where
  | here {path : List UInt8} {ms : Marks} : Reached path (true :: ms) path
  | later {path rest : List UInt8} {ms : Marks} {b : UInt8} {m : Bool} :
      Reached path ms rest → Reached (b :: path) (m :: ms) rest

theorem not_reached_nil : ¬ Reached path [] rest := nofun

theorem reached_end : Reached [] (m :: ms) rest ↔ m = true ∧ rest = [] := by
  constructor
  · rintro ⟨⟩
    exact ⟨rfl, rfl⟩
  · rintro ⟨rfl, rfl⟩
    exact .here

theorem reached_cons :
    Reached (b :: path) (m :: ms) rest ↔ (m = true ∧ rest = b :: path) ∨ Reached path ms rest := by
  constructor
  · intro h
    cases h with
    | here => exact .inl ⟨rfl, rfl⟩
    | later h => exact .inr h
  · rintro (⟨rfl, rfl⟩ | h)
    · exact .here
    · exact .later h

/-- The first mark is that of the whole path. -/
theorem reached_first :
    Reached path (m :: ms) rest ↔ (m = true ∧ rest = path) ∨ Reached path (false :: ms) rest := by
  cases path with
  | nil => simp [reached_end]
  | cons b path => simp [reached_cons]

theorem Reached.suffix (h : Reached path ms rest) : rest <:+ path := by
  induction h with
  | here => exact List.suffix_rfl
  | later _ ih => exact ih.trans (List.suffix_cons _ _)

theorem reached_union (h : ms.length = ns.length) :
    Reached path (union ms ns) rest ↔ Reached path ms rest ∨ Reached path ns rest := by
  induction path generalizing ms ns with
  | nil =>
    cases ms with
    | nil =>
      obtain rfl := List.eq_nil_of_length_eq_zero h.symm
      simp [union, not_reached_nil]
    | cons m ms =>
      obtain ⟨n, ns, rfl⟩ := List.exists_cons_of_length_eq_add_one h.symm
      simp [union, reached_end, or_and_right]
  | cons b path ih =>
    cases ms with
    | nil =>
      obtain rfl := List.eq_nil_of_length_eq_zero h.symm
      simp [union, not_reached_nil]
    | cons m ms =>
      obtain ⟨n, ns, rfl⟩ := List.exists_cons_of_length_eq_add_one h.symm
      have hrest := ih (Nat.succ.inj h)
      unfold union at hrest ⊢
      rw [List.zipWith_cons_cons, reached_cons, reached_cons, reached_cons, hrest]
      grind

theorem reached_take :
    Reached path (take p path ms) rest ↔ ∃ b, p b = true ∧ Reached path ms (b :: rest) := by
  unfold take
  induction path generalizing ms with
  | nil =>
    have hnone : ∀ b, ¬ Reached [] ms (b :: rest) := fun b h =>
      absurd (List.eq_nil_of_suffix_nil h.suffix) (List.cons_ne_nil b rest)
    simp [advance, reached_end, hnone]
  | cons x path ih =>
    cases ms with
    | nil => simp [advance, reached_cons, not_reached_nil]
    | cons m ms =>
      rw [advance, reached_cons, reached_first, ih]
      simp only [reached_cons, List.cons.injEq]
      grind

/-- Texts of bytes that satisfy `p`, where the first byte of the path is still to be read. -/
theorem exists_append_eq_cons {x : UInt8} :
    (∃ part, (∀ b ∈ part, p b = true) ∧ part ++ rest = x :: path) ↔
      rest = x :: path ∨ (p x = true ∧ ∃ part, (∀ b ∈ part, p b = true) ∧ part ++ rest = path) := by
  constructor
  · rintro ⟨_ | ⟨b, part⟩, hpart, heq⟩
    · exact .inl heq
    · obtain ⟨rfl, hpath⟩ := List.cons.inj heq
      obtain ⟨hb, hpart⟩ := List.forall_mem_cons.mp hpart
      exact .inr ⟨hb, part, hpart, hpath⟩
  · rintro (rfl | ⟨hx, part, hpart, rfl⟩)
    · exact ⟨[], nofun, rfl⟩
    · exact ⟨x :: part, List.forall_mem_cons.mpr ⟨hx, hpart⟩, rfl⟩

theorem reached_spread {live : Bool} (h : ms.length = path.length + 1) :
    Reached path (spread p live path ms) rest ↔
      (∃ part, (∀ b ∈ part, p b = true) ∧ Reached path ms (part ++ rest)) ∨
        (live = true ∧ ∃ part, (∀ b ∈ part, p b = true) ∧ part ++ rest = path) := by
  induction path generalizing ms live with
  | nil =>
    obtain ⟨m, ms, rfl⟩ := List.exists_cons_of_length_eq_add_one h
    simp only [spread, reached_end, List.append_eq_nil_iff, Bool.or_eq_true]
    constructor
    · rintro ⟨hm | hlive, rfl⟩
      · exact .inl ⟨[], nofun, hm, rfl, rfl⟩
      · exact .inr ⟨hlive, [], nofun, rfl, rfl⟩
    · rintro (⟨part, -, hm, -, rfl⟩ | ⟨hlive, part, -, -, rfl⟩)
      · exact ⟨.inl hm, rfl⟩
      · exact ⟨.inr hlive, rfl⟩
  | cons x path ih =>
    obtain ⟨m, ms, rfl⟩ := List.exists_cons_of_length_eq_add_one h
    rw [spread, reached_cons, ih (Nat.succ.inj h)]
    simp only [reached_cons, and_or_left, exists_or, exists_append_eq_cons, Bool.or_eq_true,
      Bool.and_eq_true]
    have hhere : (∃ part, (∀ b ∈ part, p b = true) ∧ m = true ∧ part ++ rest = x :: path) ↔
        m = true ∧ (rest = x :: path ∨
          (p x = true ∧ ∃ part, (∀ b ∈ part, p b = true) ∧ part ++ rest = path)) := by
      rw [← exists_append_eq_cons]
      simp only [and_left_comm, exists_and_left]
    rw [hhere]
    grind

theorem reached_takeAll {bytes : List UInt8} :
    Reached path (takeAll path bytes ms) rest ↔ Reached path ms (bytes ++ rest) := by
  induction bytes generalizing ms with
  | nil => rfl
  | cons b bytes ih =>
    rw [takeAll, ih, reached_take]
    simp

/-! ## As many marks as positions -/

theorem length_advance (p : UInt8 → Bool) (path : List UInt8) (ms : Marks) :
    (advance p path ms).length = min path.length ms.length := by
  induction path generalizing ms with
  | nil => cases ms <;> rfl
  | cons b path ih => cases ms <;> simp [advance, ih]

theorem length_take (h : ms.length = path.length + 1) :
    (take p path ms).length = path.length + 1 := by
  simp [take, length_advance, h]

theorem length_spread {live : Bool} (h : ms.length = path.length + 1) :
    (spread p live path ms).length = path.length + 1 := by
  induction path generalizing ms live with
  | nil =>
    obtain ⟨m, ms, rfl⟩ := List.exists_cons_of_length_eq_add_one h
    exact h
  | cons b path ih =>
    obtain ⟨m, ms, rfl⟩ := List.exists_cons_of_length_eq_add_one h
    exact congrArg Nat.succ (ih (Nat.succ.inj h))

theorem length_union (h : ms.length = path.length + 1) (h' : ns.length = path.length + 1) :
    (union ms ns).length = path.length + 1 := by
  simp [union, h, h']

theorem length_takeAll {bytes : List UInt8} (h : ms.length = path.length + 1) :
    (takeAll path bytes ms).length = path.length + 1 := by
  induction bytes generalizing ms with
  | nil => exact h
  | cons b bytes ih => exact ih (length_take h)

mutual

theorem length_step : ∀ (t : Token) {ms : Marks}, ms.length = path.length + 1 →
    (t.step path ms).length = path.length + 1
  | .literal _, _, h => length_takeAll h
  | .anyByte, _, h => length_take h
  | .star, _, h => length_spread h
  | .leadingTree, _, h => length_union h (length_take (length_spread h))
  | .trailingTree, _, h => length_spread (length_take h)
  | .innerTree, _, h => length_union (length_take h) (length_take (length_spread (length_take h)))
  | .oneOf _ _, _, h => length_take h
  | .choice branches, _, h => by
    simp only [Token.step]
    split
    · exact h
    · exact length_stepChoice branches h

theorem length_stepChoice : ∀ (branches : List (List Token)) {ms : Marks},
    ms.length = path.length + 1 → (stepChoice path ms branches).length = path.length + 1
  | [], _, h => by simpa [stepChoice] using h
  | branch :: branches, _, h => by
    simp only [stepChoice]
    split
    · exact length_stepChoice branches h
    · exact length_union (length_stepAll branch h) (length_stepChoice branches h)

theorem length_stepAll : ∀ (tokens : List Token) {ms : Marks}, ms.length = path.length + 1 →
    (stepAll path ms tokens).length = path.length + 1
  | [], _, h => h
  | t :: tokens, _, h => length_stepAll tokens (length_step t h)

end

/-! ## Steps -/

theorem not_reached_of_blank (h : ∀ m ∈ ms, m = false) : ¬ Reached path ms rest := by
  intro hreached
  induction hreached with
  | here => cases h true List.mem_cons_self
  | later _ ih => exact ih fun m hm => h m (List.mem_cons_of_mem _ hm)

theorem reached_slash : Reached path (take (· == slash) path ms) rest ↔
    Reached path ms (slash :: rest) := by
  simp [reached_take]

theorem reached_anything (h : ms.length = path.length + 1) :
    Reached path (spread (fun _ => true) false path ms) rest ↔
      ∃ part, Reached path ms (part ++ rest) := by
  simp [reached_spread h]

/-- A slash behind anything, or nothing at all. -/
theorem reached_tree (h : ms.length = path.length + 1) :
    Reached path (union ms (take (· == slash) path (spread (fun _ => true) false path ms))) rest ↔
      ∃ part, Token.leadingTree.Covers part ∧ Reached path ms (part ++ rest) := by
  have hlength : (take (· == slash) path (spread (fun _ => true) false path ms)).length =
      path.length + 1 := length_take (length_spread h)
  rw [reached_union (h.trans hlength.symm), reached_slash, reached_anything h]
  simp only [Token.Covers, or_and_right, exists_or, exists_eq_left, List.nil_append]
  refine or_congr Iff.rfl ⟨fun ⟨part, hpart⟩ => ?_, fun ⟨_, ⟨part, rfl⟩, hpart⟩ => ?_⟩
  · exact ⟨part ++ [slash], ⟨part, rfl⟩, by simpa using hpart⟩
  · exact ⟨part, by simpa using hpart⟩

mutual

/-- **A step through a token.** A position is marked behind a token just if a text of the token
leads there from a marked one. -/
theorem reached_step : ∀ (t : Token) {ms : Marks} {rest : List UInt8},
    ms.length = path.length + 1 →
    (Reached path (t.step path ms) rest ↔ ∃ part, t.Covers part ∧ Reached path ms (part ++ rest))
  | .literal c, ms, rest, _ => by simp [Token.step, Token.Covers, reached_takeAll]
  | .anyByte, ms, rest, _ => by
    simp only [Token.step, Token.Covers, reached_take, bne_iff_ne]
    exact ⟨fun ⟨b, hb, h⟩ => ⟨[b], ⟨b, rfl, hb⟩, h⟩, fun ⟨_, ⟨b, rfl, hb⟩, h⟩ => ⟨b, hb, h⟩⟩
  | .star, ms, rest, h => by
    have hstar : ∀ part : List UInt8, (∀ b ∈ part, (b != slash) = true) ↔ slash ∉ part := by
      intro part
      simp only [bne_iff_ne]
      exact ⟨fun h hslash => h slash hslash rfl, fun h b hb heq => h (heq ▸ hb)⟩
    simp only [Token.step, Token.Covers, reached_spread h, hstar, Bool.false_eq_true, false_and,
      or_false]
  | .leadingTree, ms, rest, h => reached_tree h
  | .trailingTree, ms, rest, h => by
    simp only [Token.step, Token.Covers, reached_anything (length_take h), reached_slash]
    exact ⟨fun ⟨part, h⟩ => ⟨slash :: part, ⟨part, rfl⟩, h⟩, fun ⟨_, ⟨part, rfl⟩, h⟩ => ⟨part, h⟩⟩
  | .innerTree, ms, rest, h => by
    simp only [Token.step]
    rw [reached_tree (length_take h)]
    simp only [reached_slash, Token.Covers]
    constructor
    · rintro ⟨part, rfl | ⟨within, rfl⟩, hpart⟩
      · exact ⟨[slash], .inl rfl, hpart⟩
      · exact ⟨slash :: (within ++ [slash]), .inr ⟨within, rfl⟩, hpart⟩
    · rintro ⟨part, rfl | ⟨within, rfl⟩, hpart⟩
      · exact ⟨[], .inl rfl, hpart⟩
      · exact ⟨within ++ [slash], .inr ⟨within, rfl⟩, hpart⟩
  | .oneOf negated ranges, ms, rest, _ => by
    simp only [Token.step, Token.Covers, reached_take]
    exact ⟨fun ⟨b, hb, h⟩ => ⟨[b], ⟨b, rfl, hb⟩, h⟩, fun ⟨_, ⟨b, rfl, hb⟩, h⟩ => ⟨b, hb, h⟩⟩
  | .choice branches, ms, rest, h => by
    simp only [Token.step]
    split
    · next hvoid => simp [Token.Covers, hvoid]
    · next hvoid => simp [Token.Covers, hvoid, reached_stepChoice branches h]

theorem reached_stepChoice : ∀ (branches : List (List Token)) {ms : Marks} {rest : List UInt8},
    ms.length = path.length + 1 →
    (Reached path (stepChoice path ms branches) rest ↔
      ∃ part, AnyCovers branches part ∧ Reached path ms (part ++ rest))
  | [], ms, rest, _ => by
    have hblank : ¬ Reached path (ms.map fun _ => false) rest := not_reached_of_blank (by simp)
    simpa [stepChoice, AnyCovers] using hblank
  | branch :: branches, ms, rest, h => by
    simp only [stepChoice]
    split
    · next hvoid => simp [AnyCovers, hvoid, reached_stepChoice branches h]
    · next hvoid =>
      rw [reached_union ((length_stepAll branch h).trans (length_stepChoice branches h).symm),
        reached_stepAll branch h, reached_stepChoice branches h]
      simp [AnyCovers, hvoid, or_and_right, exists_or]

theorem reached_stepAll : ∀ (tokens : List Token) {ms : Marks} {rest : List UInt8},
    ms.length = path.length + 1 →
    (Reached path (stepAll path ms tokens) rest ↔
      ∃ part, Covers tokens part ∧ Reached path ms (part ++ rest))
  | [], ms, rest, _ => by simp [stepAll, Covers]
  | t :: tokens, ms, rest, h => by
    rw [stepAll, reached_stepAll tokens (length_step t h)]
    simp only [reached_step t h, Covers]
    constructor
    · rintro ⟨later, hlater, first, hfirst, hreached⟩
      exact ⟨first ++ later, ⟨first, later, rfl, hfirst, hlater⟩, by simpa using hreached⟩
    · rintro ⟨_, ⟨first, later, rfl, hfirst, hlater⟩, hreached⟩
      exact ⟨later, hlater, first, hfirst, by simpa using hreached⟩

end

/-! ## Whole paths -/

theorem reached_start : Reached path (start path) rest ↔ rest = path := by
  unfold start
  rw [reached_first]
  have hblank : ¬ Reached path (false :: path.map fun _ => false) rest :=
    not_reached_of_blank (by simp)
  rw [or_iff_left hblank, and_iff_right rfl]

/-- The last mark is that of the end. -/
theorem getLastD_iff_reached (h : ms.length = path.length + 1) :
    ms.getLastD false = true ↔ Reached path ms [] := by
  induction path generalizing ms with
  | nil =>
    obtain ⟨m, rfl⟩ := List.length_eq_one_iff.mp h
    simp [reached_end]
  | cons b path ih =>
    obtain ⟨m, ms, rfl⟩ := List.exists_cons_of_length_eq_add_one h
    have hrest : ms.length = path.length + 1 := Nat.succ.inj h
    obtain ⟨n, ms, rfl⟩ := List.exists_cons_of_length_eq_add_one hrest
    rw [reached_cons, ← ih hrest]
    simp

/-- **What a pattern matches** is what its tokens cover, and `**` alone matches every path. -/
theorem matchesBytes_iff {tokens : List Token} :
    matchesBytes tokens path = true ↔ tokens = [.leadingTree] ∨ Covers tokens path := by
  have hlength : (start path).length = path.length + 1 := by simp [start]
  have hcovers : (stepAll path (start path) tokens).getLastD false = true ↔ Covers tokens path := by
    rw [getLastD_iff_reached (length_stepAll tokens hlength), reached_stepAll tokens hlength]
    simp [reached_start]
  unfold matchesBytes
  split
  · simp
  · next hne =>
    have hne' : tokens ≠ [.leadingTree] := hne
    rw [hcovers, or_iff_right hne']

end IncludeTree.Glob
