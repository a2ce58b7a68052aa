import IncludeTree.Ledger
import Mathlib.Data.List.Nodup

/-!
# Growth of a ledger

`Ledger.Admits l es` says that the entries `es` can be recorded in `l` one after the other, and
`Ledger.append l es` is `l` once they have been. `Ledger.recordAll` records a list of entries up to
the first that is refused; `recordAll_eq_ok` and `recordAll_eq_error` say when it gets to the end,
and otherwise where it stops, with which error and with which ledger.

`Ledger.Grows l l' added` is what every operation on a ledger comes to, whether it succeeds or
fails: `l'` is `l` with the admitted entries `added` after its own. It is reflexive and transitive,
and it keeps the limit, the order and the absence of repetitions.
-/

namespace IncludeTree.Ledger

variable {l l' l'' : Ledger} {e : Entry} {es added added' : List Entry}

/-! ## Appending -/

/-- The ledger with more entries after its own. -/
def append (l : Ledger) (es : List Entry) : Ledger := { l with entries := l.entries ++ es }

@[simp] theorem append_limit (l : Ledger) (es : List Entry) : (l.append es).limit = l.limit := rfl

@[simp] theorem append_entries (l : Ledger) (es : List Entry) :
    (l.append es).entries = l.entries ++ es := rfl

@[simp] theorem append_size (l : Ledger) (es : List Entry) :
    (l.append es).size = l.size + es.length := List.length_append

@[simp] theorem append_nil (l : Ledger) : l.append [] = l := by
  simp [append]

@[simp] theorem append_append (l : Ledger) (es es' : List Entry) :
    (l.append es).append es' = l.append (es ++ es') := by
  simp [append]

/-! ## Entries that can be recorded -/

/-- Whether entries can be recorded one after the other: each finds room and has not been made when
its turn comes. -/
def Admits : Ledger → List Entry → Prop
  | _, [] => True
  | l, e :: es => l.size < l.limit ∧ e ∉ l.entries ∧ (l.append [e]).Admits es

@[simp] theorem admits_nil (l : Ledger) : l.Admits [] := trivial

theorem admits_cons :
    l.Admits (e :: es) ↔ l.size < l.limit ∧ e ∉ l.entries ∧ (l.append [e]).Admits es := Iff.rfl

theorem admits_append (l : Ledger) (es es' : List Entry) :
    l.Admits (es ++ es') ↔ l.Admits es ∧ (l.append es).Admits es' := by
  induction es generalizing l with
  | nil => simp
  | cons e es ih =>
    simp only [List.cons_append, List.nil_append, admits_cons, ih, append_append, and_assoc]

/-- Entries can be recorded one after the other when they are distinct, new, and no more than there
is room for. -/
theorem admits_iff (l : Ledger) (es : List Entry) :
    l.Admits es ↔ es.Nodup ∧ (∀ e ∈ es, e ∉ l.entries) ∧ es.length ≤ l.room := by
  induction es generalizing l with
  | nil => simp
  | cons e es ih =>
    rw [admits_cons, ih, List.nodup_cons]
    simp only [room, append_size, append_limit, append_entries, List.length_cons, List.length_nil,
      List.mem_append, List.mem_singleton, List.forall_mem_cons, not_or]
    constructor
    · rintro ⟨hlt, hnew, hnodup, hfresh, hlen⟩
      refine ⟨⟨fun hmem => (hfresh e hmem).2 rfl, hnodup⟩, ⟨hnew, fun x hx => (hfresh x hx).1⟩, ?_⟩
      omega
    · rintro ⟨⟨hne, hnodup⟩, ⟨hnew, hfresh⟩, hlen⟩
      refine ⟨by omega, hnew, hnodup, fun x hx => ⟨hfresh x hx, ?_⟩, by omega⟩
      rintro rfl
      exact hne hx

/-! ## Recording a list of entries -/

theorem record_eq_append :
    l.record e = .ok l' ↔ (l.size < l.limit ∧ e ∉ l.entries) ∧ l' = l.append [e] := by
  rw [record_eq_ok, and_assoc]
  rfl

/-- A refused entry: a full ledger names its limit, any other an entry that it has. -/
theorem record_eq_error {err : ResolveError} :
    l.record e = .error err ↔
      (l.limit ≤ l.size ∧ err = .tooMany l.limit) ∨
      (l.size < l.limit ∧ e ∈ l.entries ∧ err = .duplicate e.directive) := by
  unfold record contains
  by_cases hfull : l.limit ≤ l.size
  · simp [hfull, Nat.not_lt.mpr hfull, eq_comm]
  · by_cases hmem : e ∈ l.entries
    · simp [hfull, hmem, Nat.not_le.mp hfull, eq_comm]
    · simp [hfull, hmem]

/-- Records entries one after the other, up to the first that is refused. -/
def recordAll (l : Ledger) : List Entry → Except ResolveError Unit × Ledger
  | [] => (.ok (), l)
  | e :: es =>
    match l.record e with
    | .ok l' => l'.recordAll es
    | .error err => (.error err, l)

@[simp] theorem recordAll_nil (l : Ledger) : l.recordAll [] = (.ok (), l) := rfl

theorem recordAll_cons_of_ok (h : l.record e = .ok l') (es : List Entry) :
    l.recordAll (e :: es) = l'.recordAll es := by
  simp only [recordAll, h]

theorem recordAll_cons_of_error {err : ResolveError} (h : l.record e = .error err)
    (es : List Entry) : l.recordAll (e :: es) = (.error err, l) := by
  simp only [recordAll, h]

/-- What comes behind admitted entries finds them in the ledger. -/
theorem recordAll_append_of_admits (h : l.Admits es) (es' : List Entry) :
    l.recordAll (es ++ es') = (l.append es).recordAll es' := by
  induction es generalizing l with
  | nil => rw [List.nil_append, append_nil]
  | cons e es ih =>
    obtain ⟨hlt, hnew, hes⟩ := admits_cons.mp h
    have hrecord : l.record e = .ok (l.append [e]) := record_eq_append.mpr ⟨⟨hlt, hnew⟩, rfl⟩
    rw [List.cons_append, recordAll_cons_of_ok hrecord, ih hes, append_append]
    rfl

/-- All entries are recorded just when they are admitted. -/
theorem recordAll_eq_ok : l.recordAll es = (.ok (), l') ↔ l.Admits es ∧ l' = l.append es := by
  constructor
  · intro h
    induction es generalizing l with
    | nil =>
      rw [append_nil]
      exact ⟨trivial, (Prod.mk.inj h).2.symm⟩
    | cons e es ih =>
      cases hrecord : l.record e with
      | ok l₁ =>
        obtain ⟨⟨hlt, hnew⟩, rfl⟩ := record_eq_append.mp hrecord
        rw [recordAll_cons_of_ok hrecord] at h
        obtain ⟨hadm, rfl⟩ := ih h
        exact ⟨⟨hlt, hnew, hadm⟩, append_append l [e] es⟩
      | error err =>
        rw [recordAll_cons_of_error hrecord] at h
        cases h
  · rintro ⟨hadm, rfl⟩
    have hall := recordAll_append_of_admits hadm []
    rwa [List.append_nil] at hall

/-- **The first refused entry.** Recording stops at an entry just when those before it are admitted
and it is not; they stay recorded, and the error is the one for that entry. -/
theorem recordAll_eq_error {err : ResolveError} :
    l.recordAll es = (.error err, l') ↔
      ∃ before e after, es = before ++ e :: after ∧ l.Admits before ∧
        (l.append before).record e = .error err ∧ l' = l.append before := by
  constructor
  · intro h
    induction es generalizing l with
    | nil => cases h
    | cons a es ih =>
      cases hrecord : l.record a with
      | ok l₁ =>
        obtain ⟨⟨hlt, hnew⟩, rfl⟩ := record_eq_append.mp hrecord
        rw [recordAll_cons_of_ok hrecord] at h
        obtain ⟨before, e, after, rfl, hadm, herr, rfl⟩ := ih h
        rw [append_append] at herr ⊢
        exact ⟨a :: before, e, after, rfl, ⟨hlt, hnew, hadm⟩, herr, rfl⟩
      | error err' =>
        rw [recordAll_cons_of_error hrecord] at h
        obtain ⟨herr, rfl⟩ := Prod.mk.inj h
        obtain rfl := Except.error.inj herr
        refine ⟨[], a, es, rfl, trivial, ?_, (append_nil _).symm⟩
        rwa [append_nil]
  · rintro ⟨before, e, after, rfl, hadm, herr, rfl⟩
    rw [recordAll_append_of_admits hadm, recordAll_cons_of_error herr]

/-- An empty ledger admits entries that it has room for when none of them is repeated. -/
theorem admits_iff_nodup (hempty : l.entries = []) (hroom : es.length ≤ l.limit) :
    l.Admits es ↔ es.Nodup := by
  rw [admits_iff]
  simp [hempty, room, size, hroom]

/-- Entries that an empty ledger has room for are all recorded unless one of them is repeated, and
that one is refused as a duplicate. -/
theorem exists_duplicate_iff (hempty : l.entries = []) (hroom : es.length ≤ l.limit) :
    (∃ d l', l.recordAll es = (.error (.duplicate d), l')) ↔ ¬ es.Nodup := by
  have hsize : l.size = 0 := by simp [size, hempty]
  rw [← admits_iff_nodup hempty hroom]
  constructor
  · rintro ⟨d, l', herr⟩ hall
    cases herr.symm.trans (recordAll_eq_ok.mpr ⟨hall, rfl⟩)
  · intro hno
    rcases hrec : l.recordAll es with ⟨err | ⟨⟩, l'⟩
    · obtain ⟨before, e, after, rfl, -, herr, rfl⟩ := recordAll_eq_error.mp hrec
      rcases record_eq_error.mp herr with ⟨hfull, -⟩ | ⟨-, -, rfl⟩
      · simp only [append_limit, append_size, hsize, List.length_append, List.length_cons]
          at hfull hroom
        omega
      · exact ⟨e.directive, _, rfl⟩
    · exact absurd (recordAll_eq_ok.mp hrec).1 hno

/-! ## Growth -/

/-- One ledger is another with some admitted entries after its own. -/
def Grows (l l' : Ledger) (added : List Entry) : Prop := l.Admits added ∧ l' = l.append added

theorem Grows.refl (l : Ledger) : l.Grows l [] := ⟨trivial, (append_nil l).symm⟩

theorem Grows.trans (h : l.Grows l' added) (h' : l'.Grows l'' added') :
    l.Grows l'' (added ++ added') := by
  obtain ⟨hadm, rfl⟩ := h
  obtain ⟨hadm', rfl⟩ := h'
  exact ⟨(admits_append l added added').mpr ⟨hadm, hadm'⟩, append_append l added added'⟩

/-- A ledger grows by two lists in a row when it grows by the one and then by the other. -/
theorem grows_append {l l'' : Ledger} {es es' : List Entry} :
    l.Grows l'' (es ++ es') ↔ ∃ l', l.Grows l' es ∧ l'.Grows l'' es' := by
  constructor
  · rintro ⟨hadm, rfl⟩
    obtain ⟨hes, hes'⟩ := (admits_append l es es').mp hadm
    exact ⟨l.append es, ⟨hes, rfl⟩, hes', (append_append l es es').symm⟩
  · rintro ⟨l', h, h'⟩
    exact h.trans h'

/-- Whatever recording a list of entries comes to, the ledger has grown by the first of them. -/
theorem exists_grows_recordAll (l : Ledger) (es : List Entry) :
    ∃ added, l.Grows (l.recordAll es).2 added ∧
      ((l.recordAll es).1 = .ok () → added = es) := by
  rcases h : l.recordAll es with ⟨err | ⟨⟩, l'⟩
  · obtain ⟨before, e, after, -, hadm, -, rfl⟩ := recordAll_eq_error.mp h
    exact ⟨before, ⟨hadm, rfl⟩, fun hok => by cases hok⟩
  · obtain ⟨hadm, rfl⟩ := recordAll_eq_ok.mp h
    exact ⟨es, ⟨hadm, rfl⟩, fun _ => rfl⟩

theorem exists_grows_record (l : Ledger) (e : Entry) :
    ∃ added, l.Grows (match l.record e with | .ok l' => l' | .error _ => l) added := by
  cases h : l.record e with
  | ok l' =>
    obtain ⟨⟨hlt, hnew⟩, rfl⟩ := record_eq_append.mp h
    exact ⟨[e], ⟨hlt, hnew, trivial⟩, rfl⟩
  | error err => exact ⟨[], Grows.refl l⟩

namespace Grows

theorem limit_eq (h : l.Grows l' added) : l'.limit = l.limit := by
  rw [h.2, append_limit]

theorem entries_eq (h : l.Grows l' added) : l'.entries = l.entries ++ added := by
  rw [h.2, append_entries]

theorem size_eq (h : l.Grows l' added) : l'.size = l.size + added.length := by
  rw [h.2, append_size]

theorem entries_isPrefix (h : l.Grows l' added) : l.entries <+: l'.entries :=
  ⟨added, h.entries_eq.symm⟩

theorem nodup (h : l.Grows l' added) : added.Nodup := ((admits_iff l added).mp h.1).1

theorem fresh (h : l.Grows l' added) : ∀ e ∈ added, e ∉ l.entries :=
  ((admits_iff l added).mp h.1).2.1

theorem length_le (h : l.Grows l' added) : added.length ≤ l.room :=
  ((admits_iff l added).mp h.1).2.2

/-- Every new entry takes one unit of room. -/
theorem room_eq (h : l.Grows l' added) : l'.room + added.length = l.room := by
  have hlen := h.length_le
  have hsize := h.size_eq
  have hlimit := h.limit_eq
  unfold room at hlen ⊢
  omega

/-- Entries without repetition stay without repetition. -/
theorem nodup_entries (h : l.Grows l' added) (hl : l.entries.Nodup) : l'.entries.Nodup := by
  rw [h.entries_eq]
  refine List.Nodup.append hl h.nodup ?_
  exact List.disjoint_right.mpr h.fresh

/-- A ledger within its limit stays within it. -/
theorem size_le (h : l.Grows l' added) (hl : l.size ≤ l.limit) : l'.size ≤ l'.limit := by
  have hroom := h.length_le
  rw [h.size_eq, h.limit_eq]
  unfold room at hroom
  omega

end Grows

end IncludeTree.Ledger
