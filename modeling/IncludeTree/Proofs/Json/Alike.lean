import IncludeTree.Json.Decode
import Mathlib.Data.List.Perm.Basic

/-!
# JSON values up to the order of members

The members of an object have no order of their own. `Json.Alike v w` says that two values are the
same up to that order, at every depth, and `ReadsBack encode decode` that a decoder gives back every
encoded value, in whatever order its members come.

A record is encoded as the object of those of its fields that are given. What is read from such an
object is the record with these fields set one after the other (`exists_toRecord_of_alike`).
-/

namespace IncludeTree

namespace Json

/-- Whether two values are the same up to the order of the members of objects. -/
inductive Alike : Json → Json → Prop where
  | null : Alike .null .null
  | bool (b : Bool) : Alike (.bool b) (.bool b)
  | int (n : Int) : Alike (.int n) (.int n)
  | float (bits : UInt64) : Alike (.float bits) (.float bits)
  | str (s : String) : Alike (.str s) (.str s)
  /-- Lists with like items. -/
  | arr {items items' : List Json} :
      List.Forall₂ Alike items items' → Alike (.arr items) (.arr items')
  /-- Objects with the same keys and like values, after the members are put in another order. -/
  | obj {members members' ordered : List (String × Json)} :
      members.map Prod.fst = members'.map Prod.fst →
      List.Forall₂ Alike (members.map Prod.snd) (members'.map Prod.snd) →
      members'.Perm ordered → Alike (.obj members) (.obj ordered)

mutual

theorem Alike.refl : (v : Json) → Alike v v
  | .null => .null
  | .bool b => .bool b
  | .int n => .int n
  | .float bits => .float bits
  | .str s => .str s
  | .arr items => .arr (forall₂_alike_refl items)
  | .obj members => .obj rfl (forall₂_alike_refl_members members) (.refl members)

theorem forall₂_alike_refl : (items : List Json) → List.Forall₂ Alike items items
  | [] => .nil
  | v :: rest => .cons (Alike.refl v) (forall₂_alike_refl rest)

theorem forall₂_alike_refl_members :
    (members : List (String × Json)) →
      List.Forall₂ Alike (members.map Prod.snd) (members.map Prod.snd)
  | [] => .nil
  | (_, v) :: rest => .cons (Alike.refl v) (forall₂_alike_refl_members rest)

end

variable {α β φ : Type}

@[simp] theorem str_alike {s : String} {v : Json} : (Json.str s).Alike v ↔ v = .str s :=
  ⟨fun h => by cases h; rfl, fun h => h ▸ .str s⟩

theorem exists_of_arr_alike {items : List Json} {v : Json} (h : (Json.arr items).Alike v) :
    ∃ items', v = .arr items' ∧ List.Forall₂ Alike items items' := by
  cases h with
  | arr h => exact ⟨_, rfl, h⟩

theorem exists_of_obj_singleton_alike {key : String} {v w : Json}
    (h : (Json.obj [(key, v)]).Alike w) : ∃ v', w = .obj [(key, v')] ∧ v.Alike v' := by
  cases h with
  | @obj _ members ordered hkeys hvalues hperm =>
    obtain ⟨⟨key', v'⟩, rfl, rfl⟩ := List.map_eq_singleton_iff.mp hkeys.symm
    obtain rfl := List.perm_singleton.mp hperm.symm
    exact ⟨v', rfl, (List.forall₂_cons.mp hvalues).1⟩

theorem Alike.isNull_eq {v w : Json} (h : v.Alike w) : w.isNull = v.isNull := by
  cases h <;> rfl

/-! ## Reading values back -/

/-- Whether a decoder gives back what an encoder is given, in whatever order members come. -/
def ReadsBack (encode : α → Json) (decode : Json → Except DecodeError α) : Prop :=
  ∀ a v, (encode a).Alike v → decode v = .ok a

theorem readsBack_str : ReadsBack Json.str toText := by
  intro s v h
  rw [str_alike.mp h]
  rfl

theorem toItems_eq_ok {decode : Json → Except DecodeError α} {as : List α} {items : List Json}
    (h : List.Forall₂ (fun a v => decode v = .ok a) as items) :
    toItems decode items = .ok as := by
  induction h with
  | nil => rfl
  | cons ha _ ih => simp only [toItems, ha, ih]

theorem ReadsBack.list {encode : α → Json} {decode : Json → Except DecodeError α}
    (h : ReadsBack encode decode) :
    ReadsBack (fun as => .arr (as.map encode)) (toList decode) := by
  intro as v halike
  obtain ⟨items, rfl, hitems⟩ := exists_of_arr_alike halike
  exact toItems_eq_ok ((List.forall₂_map_left_iff.mp hitems).imp fun a v => h a v)

/-- A value that is given is read as one. -/
theorem toOptional_of_alike {encode : α → Json} {decode : Json → Except DecodeError α}
    (h : ReadsBack encode decode) {a : α} (hnull : (encode a).isNull = false) {v : Json}
    (halike : (encode a).Alike v) : toOptional decode v = .ok (some a) := by
  have hdecode := h a v halike
  have hv := halike.isNull_eq.trans hnull
  cases v with
  | null => cases hv
  | _ => simp only [toOptional, hdecode, Except.map]

/-! ## Reading records back -/

/-- The members for a field that may be absent, as a list. -/
theorem optionalMember_eq_map (key : String) (encode : α → Json) (o : Option α) :
    optionalMember key encode o = o.toList.map fun a => (key, encode a) := by
  cases o <;> rfl

section record

variable {key : φ → String} {value : φ → Json} {put : α → φ → α}
  {set : α → String → Json → Except DecodeError α}

/-- Whether members give fields, one for one: each its key and a value like its own. -/
def Gives (key : φ → String) (value : φ → Json) : List φ → List (String × Json) → Prop :=
  List.Forall₂ fun f m => m.1 = key f ∧ (value f).Alike m.2

theorem gives_of_maps {fs : List φ} {members : List (String × Json)}
    (hkeys : fs.map key = members.map Prod.fst)
    (hvalues : List.Forall₂ Alike (fs.map value) (members.map Prod.snd)) :
    Gives key value fs members := by
  rw [List.forall₂_map_left_iff, List.forall₂_map_right_iff] at hvalues
  rw [← List.forall₂_eq_eq_eq, List.forall₂_map_left_iff, List.forall₂_map_right_iff] at hkeys
  exact List.Forall₂.mp (fun f m hkey hvalue => ⟨hkey.symm, hvalue⟩) hkeys hvalues

/-- An object that is like the one of some fields gives these, in some order. -/
theorem exists_gives_of_alike {fs : List φ} {v : Json}
    (h : (Json.obj (fs.map fun f => (key f, value f))).Alike v) :
    ∃ gs members, v = .obj members ∧ fs.Perm gs ∧ Gives key value gs members := by
  cases h with
  | @obj _ members ordered hkeys hvalues hperm =>
    rw [List.map_map] at hkeys hvalues
    have hcomp : Relation.Comp (Gives key value) List.Perm fs ordered :=
      ⟨members, gives_of_maps hkeys hvalues, hperm⟩
    rw [Gives, List.forall₂_comp_perm_eq_perm_comp_forall₂] at hcomp
    obtain ⟨gs, hfs, hgives⟩ := hcomp
    exact ⟨gs, ordered, rfl, hfs, hgives⟩

theorem readFields_of_gives
    (hset : ∀ a f v, (value f).Alike v → set a (key f) v = .ok (put a f))
    {fs : List φ} {members : List (String × Json)} (h : Gives key value fs members) (a : α) :
    readFields set a members = .ok (fs.foldl put a) := by
  induction h generalizing a with
  | nil => rfl
  | @cons f m fs members hm _ ih =>
    obtain ⟨k, v⟩ := m
    obtain ⟨rfl, halike⟩ := hm
    simp only [readFields, hset a f v halike, List.foldl_cons]
    exact ih (put a f)

/-- **A record is read from its fields**: from an object that is like the one of some fields it is
put together by setting these in some order. -/
theorem exists_toRecord_of_alike {type : String} {keys : List String} {default : α}
    (hset : ∀ a f v, (value f).Alike v → set a (key f) v = .ok (put a f)) {fs : List φ} {v : Json}
    (h : (Json.obj (fs.map fun f => (key f, value f))).Alike v) :
    ∃ gs, fs.Perm gs ∧ toRecord type keys set default v = .ok (gs.foldl put default) := by
  obtain ⟨gs, members, rfl, hperm, hgives⟩ := exists_gives_of_alike h
  exact ⟨gs, hperm, readFields_of_gives hset hgives default⟩

end record

end Json

end IncludeTree
