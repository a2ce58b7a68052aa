import IncludeTree.Proofs.Expansion.Growth

/-!
# The history of a ledger

A session is shared by everything that is done in it: entries are recorded, lists of includes are
resolved and expanded, in any contexts and any order, and each may fail. `Operation` is one of these
and `Session.after` what a sequence of them leaves. Every operation only adds to the ledger
(`Operation.exists_grows_run`), hence so does every sequence (`Session.exists_grows_after`). The
main statement is `ledger_keeps_order`: a ledger stays within its limit, has no entry twice, and
keeps what it has where it is.
-/

namespace IncludeTree

open ResolveM

/-- What is done in a session. -/
inductive Operation where
  /-- An entry is recorded. -/
  | record (entry : Ledger.Entry)
  /-- A list of includes is resolved. -/
  | resolve (ctx : Context) (includes : List Include)
  /-- A list of includes is expanded. -/
  | expand (ctx : Context) (fetch : Source → Except SourceError Fetched) (includes : List Include)

/-- The session that an operation leaves, whether it succeeds or fails. -/
def Operation.run : Operation → Session → Session
  | record entry, s =>
    match s.ledger.record entry with
    | .ok ledger => { s with ledger }
    | .error _ => s
  | resolve ctx includes, s => (runOn (ctx.resolve includes) s).2
  | expand ctx fetch includes, s => (ctx.expandWith fetch includes s).2

/-- An operation only adds to the ledger. -/
theorem Operation.exists_grows_run (op : Operation) (s : Session) :
    ∃ added, s.ledger.Grows (op.run s).ledger added := by
  cases op with
  | record entry =>
    obtain ⟨added, hgrows⟩ := Ledger.exists_grows_record s.ledger entry
    refine ⟨added, ?_⟩
    dsimp only [run]
    cases hrecord : s.ledger.record entry with
    | ok l => rwa [hrecord] at hgrows
    | error e => rwa [hrecord] at hgrows
  | resolve ctx includes => exact ctx.exists_grows_resolve includes s
  | expand ctx fetch includes => exact ctx.exists_grows_expandWith fetch includes s

/-- An entry is there once it has been recorded, unless the ledger was full without it. -/
theorem Operation.mem_run_record (entry : Ledger.Entry) (s : Session) :
    entry ∈ ((record entry).run s).ledger.entries ↔
      entry ∈ s.ledger.entries ∨ s.ledger.size < s.ledger.limit := by
  dsimp only [run]
  cases hrecord : s.ledger.record entry with
  | ok l =>
    obtain ⟨⟨hlt, -⟩, rfl⟩ := Ledger.record_eq_append.mp hrecord
    exact ⟨fun _ => .inr hlt, fun _ => List.mem_append_right _ List.mem_cons_self⟩
  | error e =>
    refine ⟨.inl, fun h => ?_⟩
    rcases Ledger.record_eq_error.mp hrecord with ⟨hfull, -⟩ | ⟨-, hmem, -⟩
    · exact h.resolve_right (Nat.not_lt.mpr hfull)
    · exact hmem

namespace Session

/-- The session that operations leave one after the other. -/
def after (s : Session) : List Operation → Session
  | [] => s
  | op :: ops => (op.run s).after ops

theorem after_append (s : Session) (ops later : List Operation) :
    s.after (ops ++ later) = (s.after ops).after later := by
  induction ops generalizing s with
  | nil => rfl
  | cons op ops ih => exact ih (op.run s)

/-- A sequence of operations only adds to the ledger. -/
theorem exists_grows_after (s : Session) (ops : List Operation) :
    ∃ added, s.ledger.Grows (s.after ops).ledger added := by
  induction ops generalizing s with
  | nil => exact ⟨[], Ledger.Grows.refl s.ledger⟩
  | cons op ops ih =>
    obtain ⟨added, hop⟩ := op.exists_grows_run s
    obtain ⟨added', hops⟩ := ih (op.run s)
    exact ⟨added ++ added', hop.trans hops⟩

/-- A session in which nothing has been done, with a limit to its ledger. -/
def fresh (limit : Nat) : Session := { ledger := { limit } }

/-- **A ledger stays in order.** Whatever has been done in a session that starts with an empty
ledger, the ledger has its limit and stays within it, and has no entry twice; whatever is done next,
an operation or more, leaves its entries where they are, before those that it adds; and an entry is
refused only when it is there or the ledger is full. -/
theorem ledger_keeps_order (limit : Nat) (ops : List Operation) :
    ((fresh limit).after ops).ledger.limit = limit ∧
    ((fresh limit).after ops).ledger.size ≤ limit ∧
    ((fresh limit).after ops).ledger.entries.Nodup ∧
    (∀ op : Operation, ((fresh limit).after ops).ledger.entries <+:
      (op.run ((fresh limit).after ops)).ledger.entries) ∧
    (∀ later, ((fresh limit).after ops).ledger.entries <+:
      ((fresh limit).after (ops ++ later)).ledger.entries) ∧
    ∀ entry, entry ∈ ((Operation.record entry).run ((fresh limit).after ops)).ledger.entries ↔
      entry ∈ ((fresh limit).after ops).ledger.entries ∨
        ((fresh limit).after ops).ledger.size < limit := by
  obtain ⟨added, hgrows⟩ := exists_grows_after (fresh limit) ops
  have hlimit : ((fresh limit).after ops).ledger.limit = limit := hgrows.limit_eq
  refine ⟨hlimit, ?_, ?_, ?_, ?_, ?_⟩
  · have hsize := hgrows.size_le (Nat.zero_le limit)
    rwa [hlimit] at hsize
  · exact hgrows.nodup_entries List.nodup_nil
  · intro op
    obtain ⟨added', hop⟩ := op.exists_grows_run ((fresh limit).after ops)
    exact hop.entries_isPrefix
  · intro later
    obtain ⟨added', hlater⟩ := exists_grows_after ((fresh limit).after ops) later
    rw [after_append]
    exact hlater.entries_isPrefix
  · intro entry
    rw [Operation.mem_run_record, hlimit]

end Session

end IncludeTree
