import IncludeTree.Proofs.Glob.Reader
import Mathlib.Data.List.Chain

/-!
# Patterns by their segments

A pattern without question marks, brackets, braces and backslashes is a list of segments, written
with slashes between them. A segment is a tree, which is two stars, or a text of characters and
stars. `FitsAll` says which segments of a path such a pattern stands for, without a word about
tokens or bytes: a text stands for one segment, a tree for any number of them, and for one at least
if it comes last.

The reader makes of these segments the tokens that `opening` lists (`parse_join`). A segment is read
from the state that its place leaves the reader in, which is `State.after` the tokens so far: at the
start of the pattern and behind the slash of a tree it is `opening` that is read, elsewhere a slash
and `following`, since a tree takes the slashes at its sides into its token.
-/

namespace IncludeTree.Glob

/-- What stands between two slashes of a pattern. -/
inductive Segment where
  /-- Two stars. -/
  | tree
  /-- Characters that stand for themselves, and stars. -/
  | text (chars : List Char)
deriving DecidableEq, Repr

namespace Segment

/-- A segment as it is written. -/
def chars : Segment → List Char
  | tree => ['*', '*']
  | text chars => chars

/-- Segments as they are written, with slashes between them. -/
def join (segments : List Segment) : List Char := ['/'].intercalate (segments.map chars)

/-- Whether a segment can be told from its text: characters with another meaning are not among its
own, and two stars by themselves are a tree. -/
def IsPlain : Segment → Prop
  | tree => True
  | text chars =>
    chars ≠ [] ∧ chars ≠ ['*', '*'] ∧ ∀ c ∈ chars, c ∉ ['/', '?', '[', ']', '{', '}', '\\']

/-- A pattern as a list of segments. -/
structure Plain (segments : List Segment) : Prop where
  /-- There is a segment. -/
  ne_nil : segments ≠ []
  /-- Each of them can be told from its text. -/
  isPlain : ∀ s ∈ segments, s.IsPlain
  /-- No tree follows a tree. -/
  apart : segments.IsChain fun s t => s ≠ tree ∨ t ≠ tree

variable {s t : Segment} {rest : List Segment}

theorem join_cons_cons (s t : Segment) (rest : List Segment) :
    join (s :: t :: rest) = s.chars ++ '/' :: join (t :: rest) := by
  simp [join, List.intercalate_cons_cons]

theorem join_singleton (s : Segment) : join [s] = s.chars := by simp [join]

theorem Plain.head (h : Plain (s :: rest)) : s.IsPlain := h.isPlain s List.mem_cons_self

theorem Plain.tail (h : Plain (s :: rest)) (hrest : rest ≠ []) : Plain rest where
  ne_nil := hrest
  isPlain s hs := h.isPlain s (List.mem_cons_of_mem _ hs)
  apart := h.apart.tail

theorem Plain.ne_tree (h : Plain (tree :: t :: rest)) : t ≠ tree :=
  (List.isChain_cons_cons.mp h.apart).1.resolve_left fun hne => hne rfl

end Segment

/-! ## What segments stand for -/

/-- Whether a text is one that characters and stars stand for: a star stands for any text. -/
inductive Fits : List Char → List Char → Prop where
  | nil : Fits [] []
  | star {chars text : List Char} (skipped : List Char) :
    Fits chars text → Fits ('*' :: chars) (skipped ++ text)
  | literal {c : Char} {chars text : List Char} :
    c ≠ '*' → Fits chars text → Fits (c :: chars) (c :: text)

/-- Whether the segments of a path are ones that the segments of a pattern stand for. A tree stands
for any number of them, and for one at least at the end. -/
inductive FitsAll : List Segment → List (List Char) → Prop where
  | nil : FitsAll [] []
  | text {chars text : List Char} {rest : List Segment} {texts : List (List Char)} :
    Fits chars text → FitsAll rest texts → FitsAll (.text chars :: rest) (text :: texts)
  | tree {rest : List Segment} {texts : List (List Char)} (skipped : List (List Char)) :
    rest ≠ [] → FitsAll rest texts → FitsAll (.tree :: rest) (skipped ++ texts)
  | last {texts : List (List Char)} : texts ≠ [] → FitsAll [.tree] texts

/-! ## The tokens of segments -/

/-- The token of a character in a text of characters and stars. -/
def Token.ofChar (c : Char) : Token := if c = '*' then .star else .literal c

mutual

/-- The tokens of segments at the start of a pattern or behind the slash of a tree. -/
def opening : List Segment → List Token
  | [] => []
  | .tree :: rest => .leadingTree :: opening rest
  | .text chars :: rest => chars.map Token.ofChar ++ following rest

/-- The tokens of segments behind others, and of the slash between them. -/
def following : List Segment → List Token
  | [] => []
  | [.tree] => [.trailingTree]
  | .tree :: rest => .innerTree :: opening rest
  | .text chars :: rest => .literal '/' :: (chars.map Token.ofChar ++ following rest)

end

/-! ## Reading segments -/

namespace State

/-- The reader outside all groups, after tokens that come oldest first. -/
def after (tokens : List Token) (last : Option Char) : State where
  frame := { tokens := tokens.reverse }
  last := last

variable {tokens : List Token} {last : Option Char}

@[simp] theorem push_after (t : Token) (c : Char) :
    (after tokens last).push t c = after (tokens ++ [t]) (some c) := by
  simp [after, push, Frame.push]

@[simp] theorem pushStars_after :
    (after tokens last).pushStars = after (tokens ++ [.star, .star]) (some '*') := by
  simp [pushStars]

theorem read_literal {c : Char} (h : c ∉ ['?', '*', '[', '{', '}', '\\']) (rest : List Char) :
    (after tokens last).read c rest = .ok (after (tokens ++ [.literal c]) (some c), rest) := by
  simp only [List.mem_cons, List.not_mem_nil, or_false, not_or] at h
  simp [read, h]
  simp [after]

theorem read_star {rest : List Char} (h : rest.head? ≠ some '*') :
    (after tokens last).read '*' rest = .ok (after (tokens ++ [.star]) (some '*'), rest) := by
  have hread : (after tokens last).read '*' rest =
      .ok ((after tokens last).push .star '*', rest) := by
    unfold read
    rw [if_neg (by decide), if_pos rfl]
    split
    · exact absurd rfl h
    · rfl
  rw [hread, push_after]

theorem read_stars (rest : List Char) :
    (after tokens last).read '*' ('*' :: rest) = .ok ((after tokens last).readTree rest) := by
  simp [read]

/-- Two stars inside a segment are two stars. -/
theorem readTree_inside {rest : List Char}
    (h : (tokens ≠ [] ∧ last ≠ some '/') ∨ ∃ c later, rest = c :: later ∧ c ≠ '/') :
    (after tokens last).readTree rest = (after (tokens ++ [.star, .star]) (some '*'), rest) := by
  have hstars : (after tokens last).readTree rest = ((after tokens last).pushStars, rest) := by
    unfold readTree
    rcases h with ⟨htokens, hlast⟩ | ⟨c, later, rfl, hc⟩
    · simp [after, htokens, hlast]
    · simp [after, hc]
  rw [hstars, pushStars_after]

/-- Two stars at the start of a pattern and a slash are a tree. -/
theorem readTree_opening (last : Option Char) (rest : List Char) :
    (after [] last).readTree ('/' :: rest) = (after [.leadingTree] (some '/'), rest) := rfl

/-- Two stars behind a slash, and another slash, are a tree in place of both slashes. -/
theorem readTree_following (tokens : List Token) (rest : List Char) :
    (after (tokens ++ [.literal '/']) (some '/')).readTree ('/' :: rest) =
      (after (tokens ++ [.innerTree]) (some '/'), rest) := by
  unfold readTree
  simp [after, replaceByTree]

/-- Two stars behind a slash at the end of a pattern are a tree in place of the slash. -/
theorem readTree_end (tokens : List Token) :
    (after (tokens ++ [.literal '/']) (some '/')).readTree [] =
      (after (tokens ++ [.trailingTree]) (some '*'), []) := by
  unfold readTree
  simp [after, replaceByTree]

end State

/-- Whether a reader in front of a text comes to another state, with some of the text left. -/
def Reads (st : State) (text : List Char) (next : State) (rest : List Char) : Prop :=
  ∀ fuel, text.length ≤ fuel →
    ∃ fuel', rest.length ≤ fuel' ∧ readTokens fuel st text = readTokens fuel' next rest

namespace Reads

variable {st next final : State} {text rest left : List Char} {c : Char}

theorem refl (st : State) (text : List Char) : Reads st text st text :=
  fun fuel hfuel => ⟨fuel, hfuel, rfl⟩

theorem trans (h : Reads st text next rest) (h' : Reads next rest final left) :
    Reads st text final left := by
  intro fuel hfuel
  obtain ⟨fuel', hfuel', heq⟩ := h fuel hfuel
  obtain ⟨fuel'', hfuel'', heq'⟩ := h' fuel' hfuel'
  exact ⟨fuel'', hfuel'', heq.trans heq'⟩

theorem step (h : st.read c text = .ok (next, rest)) : Reads st (c :: text) next rest := by
  intro fuel hfuel
  obtain ⟨fuel, rfl⟩ := Nat.exists_eq_add_of_le' (Nat.one_le_of_lt hfuel)
  refine ⟨fuel, ?_, by rw [readTokens, h]⟩
  exact Nat.le_trans (State.length_of_read h) (Nat.le_of_succ_le_succ hfuel)

theorem parse_eq {tokens : List Token} {last : Option Char}
    (h : Reads (.after [] none) text (.after tokens last) []) :
    parse (String.ofList text) = .ok tokens := by
  obtain ⟨fuel, -, heq⟩ := h text.length (Nat.le_refl _)
  have hread : readTokens fuel (.after tokens last) [] = .ok tokens := by
    simp [readTokens, State.after]
  rw [parse, String.toList_ofList]
  exact heq.trans hread

/-- The characters and stars of a segment are read one by one, or two stars at a time. -/
theorem plain {chars : List Char} (tokens : List Token) (last : Option Char)
    (hplain : ∀ c ∈ chars, c ∉ ['/', '?', '[', ']', '{', '}', '\\'])
    (hlone : chars = ['*', '*'] → tokens ≠ [] ∧ last ≠ some '/')
    (hrest : rest.head? = none ∨ rest.head? = some '/') :
    ∃ last', Reads (.after tokens last) (chars ++ rest)
      (.after (tokens ++ chars.map Token.ofChar) last') rest := by
  cases chars with
  | nil => exact ⟨last, by simpa using refl _ _⟩
  | cons c chars =>
    obtain ⟨hc, hchars⟩ := List.forall_mem_cons.mp hplain
    simp only [List.mem_cons, List.not_mem_nil, or_false, not_or] at hc
    have honward {t : Token} (ht : t = Token.ofChar c)
        (hread : (State.after tokens last).read c (chars ++ rest) =
          .ok (.after (tokens ++ [t]) (some c), chars ++ rest)) :
        ∃ last', Reads (.after tokens last) (c :: chars ++ rest)
          (.after (tokens ++ (c :: chars).map Token.ofChar) last') rest := by
      obtain ⟨last', hlater⟩ := plain (tokens ++ [t]) (some c) hchars
        (fun _ => ⟨by simp, fun h => hc.1 (Option.some.inj h)⟩) hrest
      exact ⟨last', (step hread).trans (by simpa [ht] using hlater)⟩
    by_cases hstar : c = '*'
    · subst hstar
      cases chars with
      | nil =>
        refine honward rfl (State.read_star ?_)
        rcases hrest with h | h <;> simp [h]
      | cons d chars =>
        by_cases hd : d = '*'
        · subst hd
          obtain ⟨-, hchars⟩ := List.forall_mem_cons.mp hchars
          have hinside : (State.after tokens last).readTree (chars ++ rest) =
              (.after (tokens ++ [.star, .star]) (some '*'), chars ++ rest) := by
            refine State.readTree_inside ?_
            cases chars with
            | nil => exact .inl (hlone rfl)
            | cons e chars =>
              refine .inr ⟨e, chars ++ rest, rfl, fun h => ?_⟩
              exact hchars e List.mem_cons_self (h ▸ List.mem_cons_self)
          obtain ⟨last', hlater⟩ := plain (tokens ++ [.star, .star]) (some '*') hchars
            (fun _ => ⟨by simp, by decide⟩) hrest
          refine ⟨last', (step ((State.read_stars _).trans (congrArg _ hinside))).trans ?_⟩
          simpa [Token.ofChar] using hlater
        · exact honward rfl (State.read_star (by simpa using hd))
    · refine honward (by simp [Token.ofChar, hstar]) (State.read_literal ?_ _)
      simp [hc, hstar]
termination_by chars.length

end Reads

section Segments

open Segment

mutual

/-- At the start of a pattern, and behind the slash of a tree, the reader makes of segments the
tokens of an opening. -/
theorem reads_opening {segments : List Segment} (h : Plain segments) (tokens : List Token)
    (last : Option Char) (hstart : segments.head? = some tree → tokens = []) :
    ∃ last', Reads (.after tokens last) (join segments)
      (.after (tokens ++ opening segments) last') [] := by
  match segments, h with
  | [], h => exact absurd rfl h.ne_nil
  | [.tree], _ =>
    obtain rfl := hstart rfl
    exact ⟨some '*', .step rfl⟩
  | .tree :: t :: rest, h =>
    obtain rfl := hstart rfl
    obtain ⟨last', hlater⟩ := reads_opening (h.tail (List.cons_ne_nil t rest)) [.leadingTree]
      (some '/') fun htree => absurd (Option.some.inj htree) h.ne_tree
    rw [join_cons_cons]
    exact ⟨last', (Reads.step (congrArg _ (State.readTree_opening last _))).trans hlater⟩
  | .text chars :: rest, h =>
    have hlone : chars = ['*', '*'] → tokens ≠ [] ∧ last ≠ some '/' :=
      fun hchars => absurd hchars h.head.2.1
    cases rest with
    | nil =>
      obtain ⟨last', hread⟩ := Reads.plain tokens last h.head.2.2 hlone (.inl List.head?_nil)
      refine ⟨last', ?_⟩
      simpa [join_singleton, Segment.chars, opening, following] using hread
    | cons t rest =>
      have hhead : ('/' :: join (t :: rest)).head? = some '/' := rfl
      obtain ⟨last', hread⟩ := Reads.plain tokens last h.head.2.2 hlone (.inr hhead)
      obtain ⟨last'', hlater⟩ := reads_following (h.tail (List.cons_ne_nil t rest))
        (tokens ++ chars.map Token.ofChar) last'
      refine ⟨last'', ?_⟩
      rw [join_cons_cons, opening, ← List.append_assoc]
      exact hread.trans hlater
termination_by (segments.length, 0)

/-- Behind other segments and a slash the reader makes of segments the tokens that follow. -/
theorem reads_following {segments : List Segment} (h : Plain segments) (tokens : List Token)
    (last : Option Char) :
    ∃ last', Reads (.after tokens last) ('/' :: join segments)
      (.after (tokens ++ following segments) last') [] := by
  have hslash : Reads (.after tokens last) ('/' :: join segments)
      (.after (tokens ++ [.literal '/']) (some '/')) (join segments) :=
    .step (State.read_literal (by decide) _)
  match segments, h with
  | [], h => exact absurd rfl h.ne_nil
  | [.tree], _ =>
    exact ⟨some '*', hslash.trans (.step (congrArg _ (State.readTree_end tokens)))⟩
  | .tree :: t :: rest, h =>
    obtain ⟨last', hlater⟩ := reads_opening (h.tail (List.cons_ne_nil t rest))
      (tokens ++ [.innerTree]) (some '/') fun htree => absurd (Option.some.inj htree) h.ne_tree
    refine ⟨last', hslash.trans ?_⟩
    have htokens : tokens ++ following (tree :: t :: rest) =
        tokens ++ [.innerTree] ++ opening (t :: rest) := List.append_cons ..
    rw [join_cons_cons, htokens]
    exact (Reads.step (congrArg _ (State.readTree_following tokens _))).trans hlater
  | .text chars :: rest, h =>
    obtain ⟨last', hlater⟩ := reads_opening h (tokens ++ [.literal '/']) (some '/')
      fun htree => nomatch Option.some.inj htree
    have htokens : tokens ++ following (.text chars :: rest) =
        tokens ++ [.literal '/'] ++ opening (.text chars :: rest) := List.append_cons ..
    rw [htokens]
    exact ⟨last', hslash.trans hlater⟩
termination_by (segments.length, 1)

end

/-- **Segments are read as their tokens.** -/
theorem parse_join {segments : List Segment} (h : Plain segments) :
    parse (String.ofList (join segments)) = .ok (opening segments) := by
  obtain ⟨last, hread⟩ := reads_opening h [] none fun _ => rfl
  exact hread.parse_eq

end Segments

end IncludeTree.Glob
