import IncludeTree.Proofs.Ledger.Growth
import Mathlib.Data.List.Dedup
import Mathlib.Data.List.Perm.Subperm
import Mathlib.Logic.Relation

/-!
# A ledger that several callers share

Callers that share a ledger offer it their entries one at a time. Each offer is answered in one
step, as it is under the one lock, and nothing is said about whose turn it is: `Sharing` is where
the callers stand and `Sharing.Step` the answer to any one of them, so that the states that can be
reached are those of all interleavings.

What every step keeps is `Sharing.Orderly`: the ledger has grown by what was recorded, nothing that
was offered gets lost, and each answer is the one that the ledger of its moment gives. From this
alone follows what the callers are told (`duplicate_told`, `tooMany_told`) and how many of their
entries are recorded (`length_recorded`), and `interleavings_agree` says it of every interleaving.
-/

namespace IncludeTree

namespace Ledger

variable {l : Ledger} {es es' : List Entry} {e : Entry}

/-- The entries of a list that a ledger does not have, each once. -/
def newcomers (l : Ledger) (es : List Entry) : List Entry := (es.filter (· ∉ l.entries)).dedup

theorem mem_newcomers : e ∈ l.newcomers es ↔ e ∈ es ∧ e ∉ l.entries := by
  simp [newcomers]

theorem length_newcomers_of_perm (h : es.Perm es') :
    (l.newcomers es).length = (l.newcomers es').length :=
  ((h.filter _).dedup).length_eq

/-- A full ledger refuses every entry. -/
theorem record_of_full (h : l.limit ≤ l.size) (e : Entry) :
    l.record e = .error (.tooMany l.limit) :=
  record_eq_error.mpr (.inl ⟨h, rfl⟩)

end Ledger

namespace Sharing

/-! ## Answers -/

/-- What a caller was told about an entry that it offered. -/
structure Answer where
  /-- The number of the caller. -/
  caller : Nat
  /-- The entry that it offered. -/
  entry : Ledger.Entry
  /-- Whether it was recorded, and else why not. -/
  outcome : Except ResolveError Unit

/-- The entry, if it was recorded. -/
def Answer.recorded? (a : Answer) : Option Ledger.Entry :=
  match a.outcome with
  | .ok () => some a.entry
  | .error _ => none

/-- The entries that were recorded, in the order of the answers. -/
def recorded (answers : List Answer) : List Ledger.Entry := answers.filterMap Answer.recorded?

section recorded

variable {answers before after : List Answer} {a : Answer} {e : Ledger.Entry}

@[simp] theorem recorded_append (before after : List Answer) :
    recorded (before ++ after) = recorded before ++ recorded after := List.filterMap_append

@[simp] theorem recorded_singleton_ok (caller : Nat) (e : Ledger.Entry) :
    recorded [⟨caller, e, .ok ()⟩] = [e] := rfl

@[simp] theorem recorded_singleton_error (caller : Nat) (e : Ledger.Entry) (err : ResolveError) :
    recorded [⟨caller, e, .error err⟩] = [] := rfl

theorem mem_recorded : e ∈ recorded answers ↔ ∃ a ∈ answers, a.outcome = .ok () ∧ a.entry = e := by
  unfold recorded
  rw [List.mem_filterMap]
  refine exists_congr fun a => and_congr_right fun _ => ?_
  unfold Answer.recorded?
  cases a.outcome <;> simp

end recorded

end Sharing

/-! ## Steps -/

/-- Where callers stand that share a ledger. -/
structure Sharing where
  /-- The ledger. -/
  ledger : Ledger
  /-- What each caller has yet to offer. -/
  waiting : List (List Ledger.Entry)
  /-- The answers given so far. -/
  answers : List Sharing.Answer := []

namespace Sharing

/-- Any one caller is answered. -/
inductive Step : Sharing → Sharing → Prop where
  /-- The ledger takes the entry. -/
  | record {s} before {e rest after ledger} :
      s.waiting = before ++ (e :: rest) :: after →
      s.ledger.record e = .ok ledger →
      Step s
        { ledger
          waiting := before ++ rest :: after
          answers := s.answers ++ [⟨before.length, e, .ok ()⟩] }
  /-- The ledger refuses the entry and stays as it is. -/
  | refuse {s} before {e rest after err} :
      s.waiting = before ++ (e :: rest) :: after →
      s.ledger.record e = .error err →
      Step s
        { ledger := s.ledger
          waiting := before ++ rest :: after
          answers := s.answers ++ [⟨before.length, e, .error err⟩] }

/-- A state that callers reach who start with a ledger and with what each has to offer. -/
def Reaches (l : Ledger) (offers : List (List Ledger.Entry)) (s : Sharing) : Prop :=
  Relation.ReflTransGen Step { ledger := l, waiting := offers } s

/-- As long as a caller waits, one is answered: no offer blocks. -/
theorem exists_step {s : Sharing} (h : s.waiting.flatten ≠ []) : ∃ s', Step s s' := by
  obtain ⟨queue, hqueue, hne⟩ := List.flatten_ne_nil_iff.mp h
  obtain ⟨before, after, hsplit⟩ := List.append_of_mem hqueue
  obtain ⟨e, rest, rfl⟩ := List.exists_cons_of_ne_nil hne
  cases hrecord : s.ledger.record e with
  | ok ledger => exact ⟨_, .record before hsplit hrecord⟩
  | error err => exact ⟨_, .refuse before hsplit hrecord⟩

/-! ## What every step keeps -/

/-- What can be said of callers at any time who started with a ledger and their offers. -/
structure Orderly (l : Ledger) (offers : List (List Ledger.Entry)) (s : Sharing) : Prop where
  /-- The ledger has what was recorded after its own. -/
  grows : l.Grows s.ledger (recorded s.answers)
  /-- What was offered has been answered or waits. -/
  accounted : (s.answers.map Answer.entry ++ s.waiting.flatten).Perm offers.flatten
  /-- Every answer is that of the ledger as it was by then. -/
  told : ∀ before a after, s.answers = before ++ a :: after →
    ((l.append (recorded before)).record a.entry).map (fun _ => ()) = a.outcome

variable {l : Ledger} {offers : List (List Ledger.Entry)} {s s' : Sharing}

theorem orderly_start (l : Ledger) (offers : List (List Ledger.Entry)) :
    Orderly l offers { ledger := l, waiting := offers } where
  grows := Ledger.Grows.refl l
  accounted := List.Perm.refl _
  told := by simp

/-- The next answer leaves those before it as they are. -/
theorem Orderly.told_append (h : Orderly l offers s) {next : Answer}
    (hnext : (s.ledger.record next.entry).map (fun _ => ()) = next.outcome) :
    ∀ before a after, s.answers ++ [next] = before ++ a :: after →
      ((l.append (recorded before)).record a.entry).map (fun _ => ()) = a.outcome := by
  intro before a after hsplit
  rcases List.eq_nil_or_concat after with rfl | ⟨after, last, rfl⟩
  · obtain ⟨rfl, hlast⟩ := List.append_inj' hsplit rfl
    obtain rfl := List.singleton_inj.mp hlast
    rwa [← h.grows.2]
  · rw [List.concat_eq_append, ← List.cons_append, ← List.append_assoc] at hsplit
    exact h.told before a after (List.append_inj' hsplit rfl).1

/-- An offer that is answered does not wait any more. -/
theorem perm_answered {before after : List (List Ledger.Entry)} {e : Ledger.Entry}
    {rest done : List Ledger.Entry} :
    ((done ++ [e]) ++ (before ++ rest :: after).flatten).Perm
      (done ++ (before ++ (e :: rest) :: after).flatten) := by
  rw [List.append_assoc]
  refine List.Perm.append_left done ?_
  simp only [List.flatten_append, List.flatten_cons, List.cons_append, List.nil_append]
  exact List.perm_middle.symm

/-- A step keeps callers orderly. -/
theorem Orderly.step (h : Orderly l offers s) (hstep : Step s s') : Orderly l offers s' := by
  cases hstep with
  | record before hwaiting hrecord =>
    obtain ⟨⟨hroom, hnew⟩, rfl⟩ := Ledger.record_eq_append.mp hrecord
    refine ⟨?_, ?_, h.told_append (by rw [hrecord]; rfl)⟩
    · rw [recorded_append, recorded_singleton_ok]
      exact h.grows.trans ⟨⟨hroom, hnew, trivial⟩, rfl⟩
    · rw [List.map_append]
      exact perm_answered.trans (hwaiting ▸ h.accounted)
  | refuse before hwaiting hrecord =>
    refine ⟨?_, ?_, h.told_append (by rw [hrecord]; rfl)⟩
    · rw [recorded_append, recorded_singleton_error, List.append_nil]
      exact h.grows
    · rw [List.map_append]
      exact perm_answered.trans (hwaiting ▸ h.accounted)

/-- Callers are orderly in every interleaving of their offers. -/
theorem Reaches.orderly (h : Reaches l offers s) : Orderly l offers s := by
  induction h with
  | refl => exact orderly_start l offers
  | tail _ hstep ih => exact ih.step hstep

/-! ## What callers are told -/

namespace Orderly

variable {before after : List Answer} {a : Answer}

/-- A refused entry is the one that the ledger of that moment refuses. -/
theorem record_eq_error (h : Orderly l offers s) (hsplit : s.answers = before ++ a :: after)
    {err : ResolveError} (herr : a.outcome = .error err) :
    (l.append (recorded before)).record a.entry = .error err := by
  have htold := h.told before a after hsplit
  rw [herr] at htold
  cases hrecord : (l.append (recorded before)).record a.entry with
  | ok ledger => rw [hrecord] at htold; cases htold
  | error err' => rw [hrecord] at htold; exact congrArg _ (Except.error.inj htold)

/-- An entry that is called a duplicate is in the ledger. -/
theorem duplicate_told (h : Orderly l offers s) (hsplit : s.answers = before ++ a :: after)
    {d : Directive} (hdup : a.outcome = .error (.duplicate d)) :
    a.entry ∈ l.entries ++ recorded before := by
  rcases Ledger.record_eq_error.mp (h.record_eq_error hsplit hdup) with
    ⟨-, herr⟩ | ⟨-, hmem, -⟩
  · cases herr
  · exact hmem

/-- An entry that is too much finds the ledger full. -/
theorem room_le_of_tooMany (h : Orderly l offers s) (hsplit : s.answers = before ++ a :: after)
    {n : Nat} (hfull : a.outcome = .error (.tooMany n)) :
    n = l.limit ∧ l.limit ≤ l.size + (recorded before).length := by
  rcases Ledger.record_eq_error.mp (h.record_eq_error hsplit hfull) with
    ⟨hle, herr⟩ | ⟨-, -, herr⟩
  · cases herr
    simpa using hle
  · cases herr

/-- Once an entry is too much, so is every later one. -/
theorem tooMany_told (h : Orderly l offers s) (hsplit : s.answers = before ++ a :: after)
    {n : Nat} (hfull : a.outcome = .error (.tooMany n)) :
    ∀ b ∈ after, b.outcome = .error (.tooMany n) := by
  intro b hb
  obtain ⟨rfl, hle⟩ := h.room_le_of_tooMany hsplit hfull
  obtain ⟨between, later, rfl⟩ := List.append_of_mem hb
  have hlater : s.answers = (before ++ a :: between) ++ b :: later := by rw [hsplit]; simp
  rw [← h.told _ b later hlater, Ledger.record_of_full]
  · rfl
  · rw [recorded_append, Ledger.append_limit, Ledger.append_size, List.length_append]
    omega

/-- An entry that was answered is in the ledger, unless the ledger is full. -/
theorem mem_or_full (h : Orderly l offers s) (ha : a ∈ s.answers) :
    a.entry ∈ l.entries ++ recorded s.answers ∨ l.room ≤ (recorded s.answers).length := by
  obtain ⟨before, after, hsplit⟩ := List.append_of_mem ha
  have hrecorded : recorded s.answers = recorded before ++ recorded (a :: after) := by
    rw [hsplit, recorded_append]
  cases hout : a.outcome with
  | ok _ => exact .inl (List.mem_append_right _ (mem_recorded.mpr ⟨a, ha, hout, rfl⟩))
  | error err =>
    rcases Ledger.record_eq_error.mp (h.record_eq_error hsplit hout) with
      ⟨hle, -⟩ | ⟨-, hmem, -⟩
    · refine .inr ?_
      rw [Ledger.append_limit, Ledger.append_size] at hle
      rw [hrecorded, List.length_append, Ledger.room]
      omega
    · refine .inl ?_
      rw [hrecorded, ← List.append_assoc]
      exact List.mem_append_left _ hmem

/-! ## How many entries are recorded -/

/-- As many entries are recorded as there are different new ones among those answered, but no more
than there was room for. -/
theorem length_recorded (h : Orderly l offers s) :
    (recorded s.answers).length =
      min l.room (l.newcomers (s.answers.map Answer.entry)).length := by
  have hsub : recorded s.answers ⊆ l.newcomers (s.answers.map Answer.entry) := fun e he => by
    obtain ⟨a, ha, -, hentry⟩ := mem_recorded.mp he
    exact Ledger.mem_newcomers.mpr
      ⟨hentry ▸ List.mem_map_of_mem ha, h.grows.fresh e he⟩
  have hle := (List.subperm_of_subset h.grows.nodup hsub).length_le
  refine Nat.le_antisymm (Nat.le_min.mpr ⟨h.grows.length_le, hle⟩) ?_
  by_cases hfull : l.room ≤ (recorded s.answers).length
  · exact Nat.le_trans (Nat.min_le_left _ _) hfull
  · -- The ledger never was full, so each entry that was answered is there.
    have hsup : l.newcomers (s.answers.map Answer.entry) ⊆ recorded s.answers := fun e he => by
      obtain ⟨hmem, hnew⟩ := Ledger.mem_newcomers.mp he
      obtain ⟨a, ha, rfl⟩ := List.mem_map.mp hmem
      have hin := (h.mem_or_full ha).resolve_right hfull
      exact (List.mem_append.mp hin).resolve_left hnew
    exact Nat.le_trans (Nat.min_le_right _ _)
      (List.subperm_of_subset (List.nodup_dedup _) hsup).length_le

end Orderly

/-- **All interleavings agree.** Let callers share a ledger and let each have its entries to offer.
Whatever the interleaving, at any time the ledger has what was recorded after its own entries, no
entry was recorded twice or had been there before, and as long as an offer waits one is answered. An
entry was refused as a duplicate only if the ledger had it by then, and once one was too much, so
was every later one. When no offer waits any more, as many entries have been recorded as there are
different new ones among all the offers, or as there was room for if that is less. -/
theorem interleavings_agree (h : Reaches l offers s) :
    s.ledger = l.append (recorded s.answers) ∧
    (recorded s.answers).Nodup ∧ (∀ e ∈ recorded s.answers, e ∉ l.entries) ∧
    (s.waiting.flatten ≠ [] → ∃ s', Step s s') ∧
    (∀ before a after, s.answers = before ++ a :: after →
      (∀ d, a.outcome = .error (.duplicate d) → a.entry ∈ l.entries ++ recorded before) ∧
      ∀ n, a.outcome = .error (.tooMany n) → ∀ b ∈ after, b.outcome = .error (.tooMany n)) ∧
    (s.waiting.flatten = [] →
      (recorded s.answers).length =
        min (l.limit - l.size) (l.newcomers offers.flatten).length) := by
  have horderly := h.orderly
  refine ⟨horderly.grows.2, horderly.grows.nodup, horderly.grows.fresh, exists_step, ?_, ?_⟩
  · exact fun before a after hsplit =>
      ⟨fun d => horderly.duplicate_told hsplit, fun n => horderly.tooMany_told hsplit⟩
  · intro hdone
    have hall := horderly.accounted
    rw [hdone, List.append_nil] at hall
    rw [horderly.length_recorded, Ledger.length_newcomers_of_perm hall]
    rfl

/-- What is recorded of a file of one project. -/
def sampleEntry (path : String) : Ledger.Entry where
  directive := .ofLocal path
  scope := ⟨"group/app", "main"⟩

/-- Two callers with one entry in common share a ledger that has room for two. The first is answered
once and then the second three times: one offer comes too late, one finds the last place, and the
two that are left find no room, though the ledger has the entry of one of them. -/
theorem interleavings_agree_twoCallers :
    let l : Ledger := { limit := 3, entries := [sampleEntry "z.yml"] }
    let offers := [[sampleEntry "a.yml", sampleEntry "b.yml"],
      [sampleEntry "a.yml", sampleEntry "c.yml", sampleEntry "z.yml"]]
    let answers : List Answer :=
      [⟨0, sampleEntry "a.yml", .ok ()⟩,
        ⟨1, sampleEntry "a.yml", .error (.duplicate (.ofLocal "a.yml"))⟩,
        ⟨1, sampleEntry "c.yml", .ok ()⟩,
        ⟨1, sampleEntry "z.yml", .error (.tooMany 3)⟩,
        ⟨0, sampleEntry "b.yml", .error (.tooMany 3)⟩]
    Reaches l offers
      { ledger := l.append [sampleEntry "a.yml", sampleEntry "c.yml"]
        waiting := [[], []]
        answers } ∧
    (recorded answers).length = min (l.limit - l.size) (l.newcomers offers.flatten).length := by
  intro l offers answers
  have hreaches : Reaches l offers
      { ledger := l.append [sampleEntry "a.yml", sampleEntry "c.yml"]
        waiting := [[], []]
        answers } := by
    refine .head (.record [] rfl (Ledger.record_eq_append.mpr ⟨by decide, rfl⟩)) ?_
    refine .head (.refuse [[sampleEntry "b.yml"]] rfl
      (Ledger.record_eq_error.mpr (.inr ⟨by decide, by decide, rfl⟩))) ?_
    refine .head (.record [[sampleEntry "b.yml"]] rfl
      (Ledger.record_eq_append.mpr ⟨by decide, rfl⟩)) ?_
    refine .head (.refuse [[sampleEntry "b.yml"]] rfl
      (Ledger.record_eq_error.mpr (.inl ⟨by decide, rfl⟩))) ?_
    exact .single (.refuse [] rfl (Ledger.record_eq_error.mpr (.inl ⟨by decide, rfl⟩)))
  obtain ⟨-, -, -, -, -, hcount⟩ := interleavings_agree hreaches
  exact ⟨hreaches, hcount rfl⟩

end Sharing

end IncludeTree
