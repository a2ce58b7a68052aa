import IncludeTree.Error
import IncludeTree.Scope

/-!
# The ledger of an expansion

A `Ledger` is the list of what one expansion has included so far, each entry a directive with the
scope that it was written in. It takes no entry beyond its limit and none twice, so
`Ledger.room`, the number of entries that it still takes, bounds an expansion whatever its files
hold.
-/

namespace IncludeTree

/-- What a ledger records of an include. -/
structure Ledger.Entry where
  /-- The directive, with the variables put in. -/
  directive : Directive
  /-- The scope of the including file. -/
  scope : Scope
deriving DecidableEq, Repr

/-- What has been included so far. -/
structure Ledger where
  /-- The number of entries that it may have. -/
  limit : Nat := 100
  /-- The entries, in the order in which they were made. -/
  entries : List Ledger.Entry := []
deriving DecidableEq, Repr, Inhabited

namespace Ledger

/-- The number of entries. -/
def size (l : Ledger) : Nat := l.entries.length

/-- The number of entries that it still takes. -/
def room (l : Ledger) : Nat := l.limit - l.size

/-- Whether an entry has been made. -/
def contains (l : Ledger) (e : Entry) : Bool := l.entries.contains e

/-- The ledger with one more entry; a full ledger refuses every entry, even one that it has. -/
def record (l : Ledger) (e : Entry) : Except ResolveError Ledger :=
  if l.limit ≤ l.size then .error (.tooMany l.limit)
  else if l.contains e then .error (.duplicate e.directive)
  else .ok { l with entries := l.entries ++ [e] }

theorem record_eq_ok {l l' : Ledger} {e : Entry} :
    l.record e = .ok l' ↔
      l.size < l.limit ∧ e ∉ l.entries ∧ l' = { l with entries := l.entries ++ [e] } := by
  unfold record contains
  by_cases hfull : l.limit ≤ l.size
  · simp [hfull, Nat.not_lt.mpr hfull]
  · by_cases hmem : e ∈ l.entries
    · simp [hfull, hmem]
    · simp [hfull, hmem, Nat.not_le.mp hfull, eq_comm]

/-- An accepted entry takes one unit of room. -/
theorem room_record {l l' : Ledger} {e : Entry} (h : l.record e = .ok l') :
    l'.room + 1 = l.room := by
  obtain ⟨hlt, -, rfl⟩ := record_eq_ok.mp h
  simp only [room, size, List.length_append, List.length_cons, List.length_nil] at hlt ⊢
  omega

end Ledger

end IncludeTree
