import IncludeTree.Glob.Pattern

/-!
# What the reader of patterns makes of a slash

Two facts about the reader, each from what one step keeps.

* Whether a text is a pattern has nothing to do with its slashes. Two readers that are in as many
  groups stay abreast of each other (`State.abreast_read`), whatever tokens they hold: they differ
  at most by a slash that `**` takes in the one and leaves in the other. So they meet the same fault
  or none (`readTokens_fault_congr`), and a slash in front of a text changes nothing about that
  (`parse_slash`).
* A pattern whose text starts with a slash starts with a token that stands for one: the slash,
  or the tree that `**` makes of it. Such a pattern is rooted, and no step of the reader takes that
  away (`State.Rooted.read`, `rooted_of_parse_slash`).
-/

namespace IncludeTree.Glob

/-! ## Faults -/

/-- What follows a class is shorter than what the class was read from. -/
theorem length_of_readClass {first isOpen : Bool} {ranges read : List (Char × Char)}
    {text rest : List Char} (h : readClass first isOpen ranges text = .ok (read, rest)) :
    rest.length < text.length := by
  induction text generalizing first isOpen ranges with
  | nil => cases h
  | cons c text ih =>
    have hlater : ∀ {isOpen ranges}, readClass false isOpen ranges text = .ok (read, rest) →
        rest.length < (c :: text).length := fun h => Nat.lt_succ_of_lt (ih h)
    simp only [readClass] at h
    split at h
    · obtain ⟨-, rfl⟩ := Prod.mk.inj (Except.ok.inj h)
      exact Nat.lt_succ_self _
    · split at h
      · exact hlater h
      · split at h
        · split at h
          · cases h
          · exact hlater h
        · exact hlater h

namespace State

/-- Two readers are abreast: they have met the same fault, or both are in as many groups and at most
`n` characters from the end, at the same place or on the two sides of a slash. -/
inductive Abreast (n : Nat) :
    Except Fault (State × List Char) → Except Fault (State × List Char) → Prop
  | fault (fault : Fault) : Abreast n (.error fault) (.error fault)
  | same {st st' : State} {rest : List Char} (hdepth : st.outer.length = st'.outer.length)
      (hlength : rest.length ≤ n) : Abreast n (.ok (st, rest)) (.ok (st', rest))
  | ahead {st st' : State} {rest : List Char} (hdepth : st.outer.length = st'.outer.length)
      (hlength : rest.length < n) : Abreast n (.ok (st, rest)) (.ok (st', '/' :: rest))
  | behind {st st' : State} {rest : List Char} (hdepth : st.outer.length = st'.outer.length)
      (hlength : rest.length < n) : Abreast n (.ok (st, '/' :: rest)) (.ok (st', rest))

/-- `**` takes a slash that follows it or takes nothing, and stays within its group. -/
theorem readTree_cases (st : State) (rest : List Char) :
    ∃ next, next.outer = st.outer ∧ (st.readTree rest = (next, rest) ∨
      ∃ later, rest = '/' :: later ∧ st.readTree rest = (next, later)) := by
  refine ⟨(st.readTree rest).1, ?_⟩
  unfold readTree
  grind [push, pushStars, replaceByTree]

variable {st st' : State}

theorem abreast_readTree (h : st.outer.length = st'.outer.length) {rest : List Char} {n : Nat}
    (hlength : rest.length ≤ n) : Abreast n (.ok (st.readTree rest)) (.ok (st'.readTree rest)) := by
  obtain ⟨next, hnext, htree⟩ := readTree_cases st rest
  obtain ⟨next', hnext', htree'⟩ := readTree_cases st' rest
  have hdepth : next.outer.length = next'.outer.length := by rw [hnext, hnext', h]
  rcases htree with htree | ⟨later, rfl, htree⟩
  · rcases htree' with htree' | ⟨later, rfl, htree'⟩
    · rw [htree, htree']
      exact .same hdepth hlength
    · rw [htree, htree']
      exact .behind hdepth hlength
  · rcases htree' with htree' | ⟨later', hlater, htree'⟩
    · rw [htree, htree']
      exact .ahead hdepth hlength
    · obtain rfl := (List.cons.inj hlater).2
      rw [htree, htree']
      exact .same hdepth (Nat.le_of_succ_le hlength)

/-- Readers that are in as many groups are abreast after any character. -/
theorem abreast_read (h : st.outer.length = st'.outer.length) (c : Char) (text : List Char) :
    Abreast text.length (st.read c text) (st'.read c text) := by
  have hempty : st.outer.isEmpty = st'.outer.isEmpty := by
    rw [Bool.eq_iff_iff, List.isEmpty_iff_length_eq_zero, List.isEmpty_iff_length_eq_zero, h]
  unfold read
  rw [hempty]
  split
  · exact .same h (Nat.le_refl _)
  split
  · split
    · exact abreast_readTree h (Nat.le_succ _)
    · exact .same h (Nat.le_refl _)
  split
  · split
    next negated body hbody =>
    have hlength : body.length ≤ text.length := by
      split at hbody <;> cases hbody <;> simp
    split
    · exact .fault _
    · next hread => exact .same h (Nat.le_trans (Nat.le_of_lt (length_of_readClass hread)) hlength)
  split
  · exact .same (congrArg Nat.succ h) (Nat.le_refl _)
  split
  · match st.outer, st'.outer, h with
    | [], [], _ => exact .fault _
    | _ :: _, _ :: _, h => exact .same (Nat.succ.inj h) (Nat.le_refl _)
  split
  · exact .same h (Nat.le_refl _)
  split
  · split
    · exact .fault _
    · exact .same h (Nat.le_succ _)
  · exact .same h (Nat.le_refl _)

theorem length_of_read {next : State} {c : Char} {text rest : List Char}
    (h : st.read c text = .ok (next, rest)) : rest.length ≤ text.length := by
  have habreast := abreast_read (rfl : st.outer.length = st.outer.length) c text
  rw [h] at habreast
  cases habreast with
  | same _ hlength => exact hlength

theorem read_slash (st : State) (text : List Char) :
    st.read '/' text = .ok (st.push (.literal '/') '/', text) := by
  simp [read]

end State

theorem readTokens_slash (fuel : Nat) (st : State) (text : List Char) :
    readTokens (fuel + 1) st ('/' :: text) =
      readTokens fuel (st.push (.literal '/') '/') text := by
  simp only [readTokens, State.read_slash]

theorem readTokens_nil_congr {fuel fuel' : Nat} {st st' : State}
    (h : st.outer.length = st'.outer.length) :
    (readTokens fuel st []).map (fun _ => ()) = (readTokens fuel' st' []).map fun _ => () := by
  unfold readTokens
  match st.outer, st'.outer, h with
  | [], [], _ => rfl
  | _ :: _, _ :: _, _ => rfl

/-- **What is wrong with a text depends on the groups that are open in front of it alone.** The
tokens that have been read make no difference. -/
theorem readTokens_fault_congr (n : Nat) : ∀ {text : List Char} {fuel fuel' : Nat} {st st' : State},
    text.length ≤ n → text.length ≤ fuel → text.length ≤ fuel' →
    st.outer.length = st'.outer.length →
    (readTokens fuel st text).map (fun _ => ()) = (readTokens fuel' st' text).map fun _ => () := by
  -- The two may be a slash apart after a step, so the induction is on what they have left at most.
  induction n with
  | zero =>
    intro text fuel fuel' st st' hn _ _ hdepth
    obtain rfl := List.eq_nil_of_length_eq_zero (Nat.le_zero.mp hn)
    exact readTokens_nil_congr hdepth
  | succ n ih =>
    intro text fuel fuel' st st' hn hfuel hfuel' hdepth
    cases text with
    | nil => exact readTokens_nil_congr hdepth
    | cons c text =>
      simp only [List.length_cons] at hn hfuel hfuel'
      obtain ⟨fuel, rfl⟩ := Nat.exists_eq_add_of_le' (Nat.one_le_of_lt hfuel)
      obtain ⟨fuel', rfl⟩ := Nat.exists_eq_add_of_le' (Nat.one_le_of_lt hfuel')
      have habreast := State.abreast_read hdepth c text
      simp only [readTokens]
      generalize st.read c text = outcome, st'.read c text = outcome' at habreast
      cases habreast with
      | fault => rfl
      | same hdepth hlength => exact ih (by omega) (by omega) (by omega) hdepth
      | ahead hdepth hlength =>
        obtain ⟨fuel', rfl⟩ := Nat.exists_eq_add_of_le' (show 1 ≤ fuel' by omega)
        dsimp only
        rw [readTokens_slash]
        exact ih (by omega) (by omega) (by omega) hdepth
      | behind hdepth hlength =>
        obtain ⟨fuel, rfl⟩ := Nat.exists_eq_add_of_le' (show 1 ≤ fuel by omega)
        dsimp only
        rw [readTokens_slash]
        exact ih (by omega) (by omega) (by omega) hdepth

/-- A slash in front of a text makes no pattern of it and is no fault. -/
theorem parse_slash (text : List Char) :
    (parse (String.ofList ('/' :: text))).map (fun _ => ()) =
      (parse (String.ofList text)).map fun _ => () := by
  simp only [parse, String.toList_ofList, List.length_cons, readTokens_slash]
  exact readTokens_fault_congr _ (Nat.le_refl _) (Nat.le_refl _) (Nat.le_refl _) rfl

/-! ## Rooted patterns -/

/-- Whether all that a token stands for starts with a slash. -/
def Token.isRooted : Token → Bool
  | .literal c => c == '/'
  | .trailingTree | .innerTree => true
  | _ => false

/-- Whether the first token of the present branch is rooted. -/
def Frame.Rooted (f : Frame) : Prop :=
  ∃ first later, f.tokens = later ++ [first] ∧ first.isRooted

theorem Frame.Rooted.push {f : Frame} (h : f.Rooted) (t : Token) : (f.push t).Rooted := by
  obtain ⟨first, later, htokens, hfirst⟩ := h
  exact ⟨first, t :: later, congrArg (t :: ·) htokens, hfirst⟩

namespace State

variable {st next : State} {c : Char} {text rest : List Char}

/-- Whether the first token of the pattern, below all open groups, is rooted. -/
def Rooted (st : State) : Prop := (st.outer.getLastD st.frame).Rooted

/-- What happens in the innermost group keeps the pattern rooted if it does so at the bottom. -/
theorem Rooted.of_frame (h : st.Rooted) (houter : next.outer = st.outer)
    (hframe : st.frame.Rooted → next.frame.Rooted) : next.Rooted := by
  unfold Rooted at h ⊢
  rw [houter]
  cases hgroups : st.outer with
  | nil =>
    rw [hgroups] at h
    exact hframe h
  | cons f outer =>
    rw [hgroups] at h
    rwa [List.getLastD_cons] at h ⊢

theorem Rooted.push (h : st.Rooted) (t : Token) (c : Char) : (st.push t c).Rooted :=
  h.of_frame rfl fun hframe => hframe.push t

theorem Rooted.pushStars (h : st.Rooted) : st.pushStars.Rooted :=
  (h.push .star '*').push .star '*'

theorem replaceByTree_tokens {newest : Token} {tokens : List Token}
    (h : st.frame.tokens = newest :: tokens) (tree : Token) (c : Char) :
    ∃ t, (st.replaceByTree tree c).frame.tokens = t :: tokens ∧ (t = newest ∨ t = tree) := by
  unfold replaceByTree
  rw [h]
  cases newest <;> simp

theorem Rooted.replaceByTree (h : st.Rooted) {tree : Token} (htree : tree.isRooted) (c : Char) :
    (st.replaceByTree tree c).Rooted := by
  refine h.of_frame rfl ?_
  rintro ⟨first, later, htokens, hfirst⟩
  cases later with
  | nil =>
    obtain ⟨t, htokens', ht⟩ := replaceByTree_tokens htokens tree c
    refine ⟨t, [], htokens', ?_⟩
    rcases ht with rfl | rfl
    · exact hfirst
    · exact htree
  | cons newest later =>
    obtain ⟨t, htokens', -⟩ := replaceByTree_tokens htokens tree c
    exact ⟨first, t :: later, htokens', hfirst⟩

theorem Rooted.readTree (h : st.Rooted) (rest : List Char) : (st.readTree rest).1.Rooted := by
  unfold State.readTree
  dsimp only
  split
  · split
    · exact h.push _ _
    · exact h.push _ _
    · exact h.pushStars
  · split
    · exact h.pushStars
    · split
      · exact h.replaceByTree rfl _
      · exact h.replaceByTree rfl _
      · split
        · exact h.replaceByTree rfl _
        · exact h.pushStars

/-- A character keeps a pattern rooted. -/
theorem Rooted.read (h : st.Rooted) (hread : st.read c text = .ok (next, rest)) : next.Rooted := by
  unfold State.read at hread
  split at hread
  · cases hread
    exact h.push _ _
  split at hread
  · split at hread
    · next later =>
      obtain rfl : (st.readTree later).1 = next := congrArg Prod.fst (Except.ok.inj hread)
      exact h.readTree later
    · cases hread
      exact h.push _ _
  split at hread
  · dsimp only at hread
    split at hread <;> cases hread
    exact h.push _ _
  -- A group is opened: what was innermost is now the first of the groups around.
  split at hread
  · cases hread
    unfold Rooted at h ⊢
    rwa [List.getLastD_cons]
  -- A group is closed: the first of the groups around is innermost again, and takes one token.
  split at hread
  · split at hread <;> cases hread
    next f outer houter =>
    unfold Rooted at h
    rw [houter, List.getLastD_cons] at h
    have hbelow : Rooted { frame := f, outer } := h
    exact hbelow.of_frame rfl fun hframe => hframe.push _
  -- A branch is ended: the groups around are as they were, and there is one.
  split at hread
  · next hcomma =>
    cases hread
    unfold Rooted at h ⊢
    cases houter : st.outer with
    | nil => simp [houter] at hcomma
    | cons f outer =>
      rw [houter, List.getLastD_cons] at h
      rwa [List.getLastD_cons]
  split at hread
  · split at hread <;> cases hread
    exact h.push _ _
  · cases hread
    exact h.push _ _

end State

theorem rooted_of_readTokens_nil {fuel : Nat} {st : State} {tokens : List Token}
    (hrooted : st.Rooted) (h : readTokens fuel st [] = .ok tokens) :
    ∃ first later, tokens = first :: later ∧ first.isRooted := by
  unfold readTokens at h
  unfold State.Rooted at hrooted
  cases houter : st.outer with
  | cons f outer =>
    rw [houter] at h
    cases h
  | nil =>
    rw [houter] at h hrooted
    obtain ⟨first, later, htokens, hfirst⟩ := hrooted
    rw [List.getLastD_nil] at htokens
    refine ⟨first, later.reverse, ?_, hfirst⟩
    rw [← Except.ok.inj h, htokens, List.reverse_append]
    rfl

/-- A reader that holds a rooted pattern comes out with one. -/
theorem rooted_of_readTokens {fuel : Nat} {st : State} {text : List Char} {tokens : List Token}
    (hrooted : st.Rooted) (hfuel : text.length ≤ fuel)
    (h : readTokens fuel st text = .ok tokens) :
    ∃ first later, tokens = first :: later ∧ first.isRooted := by
  induction fuel generalizing st text with
  | zero =>
    obtain rfl := List.eq_nil_of_length_eq_zero (Nat.le_zero.mp hfuel)
    exact rooted_of_readTokens_nil hrooted h
  | succ fuel ih =>
    cases text with
    | nil => exact rooted_of_readTokens_nil hrooted h
    | cons c text =>
      simp only [readTokens] at h
      cases hread : st.read c text with
      | error fault =>
        rw [hread] at h
        cases h
      | ok after =>
        rw [hread] at h
        refine ih (hrooted.read hread) ?_ h
        exact Nat.le_trans (State.length_of_read hread) (Nat.le_of_succ_le_succ hfuel)

/-- **A pattern whose text starts with a slash is rooted.** -/
theorem rooted_of_parse_slash {text : List Char} {tokens : List Token}
    (h : parse (String.ofList ('/' :: text)) = .ok tokens) :
    ∃ first later, tokens = first :: later ∧ first.isRooted := by
  simp only [parse, String.toList_ofList, List.length_cons, readTokens_slash] at h
  exact rooted_of_readTokens ⟨.literal '/', [], rfl, rfl⟩ (Nat.le_refl _) h

end IncludeTree.Glob
