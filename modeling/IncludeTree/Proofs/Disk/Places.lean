import IncludeTree.Proofs.Disk.Listing

/-!
# Where a path leads

`Path.place` is the place that a path leads to by its parts alone, links left aside. A relative path
without two dots that is joined to a root leads on from where the root leads, by its names and no
other way (`Path.place_join`): slashes in front of a path are no part of it, and empty parts and
single dots lead nowhere.

On a disk the same holds with the links of the root followed: the system takes a path part by part
(`Volume.walk_append`), and from a directory the names of a file below lead to it
(`Volume.walk_names`), so that a path joined to the root of a directory leads to the file that
stands there (`Volume.find_join`).
-/

namespace IncludeTree

namespace Path

variable {path relative root : String} {here ps : List String}

/-! ## The parts of a path -/

/-- The parts of a path that lead somewhere. -/
def names (path : String) : List String := (parts path).filter fun part => part != "" && part != "."

theorem parts_ne_nil (path : String) : parts path ≠ [] := by
  simp [parts, List.splitOn_ne_nil]

theorem parts_append_slash (before after : List Char) :
    parts (String.ofList (before ++ '/' :: after)) =
      parts (String.ofList before) ++ parts (String.ofList after) := by
  simp [parts, List.splitOn_append_cons_self]

/-- Slashes at the start are empty parts. -/
theorem parts_trimSlashes (path : String) :
    ∃ n, parts path = List.replicate n "" ++ parts (trimSlashes path) := by
  have hchars : ∀ chars : List Char, ∃ n, parts (String.ofList chars) =
      List.replicate n "" ++ parts (String.ofList (chars.dropWhile (· == '/'))) := by
    intro chars
    induction chars with
    | nil => exact ⟨0, rfl⟩
    | cons c chars ih =>
      by_cases hc : c = '/'
      · obtain ⟨n, hn⟩ := ih
        refine ⟨n + 1, ?_⟩
        rw [hc, List.dropWhile_cons_of_pos (by decide), List.replicate_succ, List.cons_append, ← hn]
        exact parts_append_slash [] chars
      · refine ⟨0, ?_⟩
        rw [List.dropWhile_cons_of_neg (by simpa using hc)]
        rfl
  simpa [trimSlashes] using hchars path.toList

theorem names_trimSlashes (path : String) : names (trimSlashes path) = names path := by
  obtain ⟨n, hparts⟩ := parts_trimSlashes path
  rw [names, names, hparts, List.filter_append, List.filter_replicate_of_neg (by decide),
    List.nil_append]

theorem mem_parts_trimSlashes {part : String} (h : part ≠ "") :
    part ∈ parts (trimSlashes path) ↔ part ∈ parts path := by
  obtain ⟨n, hparts⟩ := parts_trimSlashes path
  simp [hparts, h]

theorem isAbsolute_trimSlashes (path : String) : isAbsolute (trimSlashes path) = false := by
  unfold isAbsolute trimSlashes
  rw [String.toList_ofList, beq_eq_false_iff_ne]
  intro hhead
  have := List.head?_dropWhile_not (· == '/') path.toList
  rw [hhead] at this
  cases this

/-! ## Paths joined to a root -/

/-- A root has the same parts in front of every path that is joined to it; behind these it has an
empty one at most, if there is nothing behind its last slash. -/
theorem parts_join (root : String) : ∃ ps tail, (tail = [] ∨ tail = [""]) ∧
    parts root = ps ++ tail ∧
    ∀ relative, isAbsolute relative = false →
      parts (join root relative) = ps ++ parts relative := by
  rcases List.eq_nil_or_concat root.toList with hroot | ⟨before, c, hroot⟩
  · obtain rfl : root = "" := String.toList_inj.mp hroot
    refine ⟨[], [""], .inr rfl, rfl, fun relative hrelative => ?_⟩
    simp [join, hrelative]
  · have hroot' : root = String.ofList (before ++ [c]) := String.toList_inj.mp (by simp [hroot])
    by_cases hc : c = '/'
    · subst hc
      refine ⟨parts (String.ofList before), [""], .inr rfl, ?_, fun relative hrelative => ?_⟩
      · rw [hroot', parts_append_slash]
        rfl
      · have hjoin : join root relative = String.ofList (before ++ '/' :: relative.toList) := by
          apply String.toList_inj.mp
          simp [join, hrelative, hroot]
        rw [hjoin, parts_append_slash, String.ofList_toList]
    · refine ⟨parts root, [], .inl rfl, (List.append_nil _).symm, fun relative hrelative => ?_⟩
      have hjoin : join root relative = String.ofList (root.toList ++ '/' :: relative.toList) := by
        apply String.toList_inj.mp
        simp [join, hrelative, hroot, hc]
      rw [hjoin, parts_append_slash, String.ofList_toList, String.ofList_toList]

/-- A relative path does not replace the root, nor does it make it absolute. -/
theorem isAbsolute_join (h : isAbsolute relative = false) :
    isAbsolute (join root relative) = isAbsolute root := by
  rcases hroot : root.toList with _ | ⟨c, rest⟩
  · have hjoin : join root relative = relative := by
      obtain rfl : root = "" := String.toList_inj.mp hroot
      simp [join, h]
    rw [hjoin, h, isAbsolute, hroot]
    rfl
  · unfold join
    rw [h]
    simp only [Bool.false_eq_true, if_false]
    split <;> simp [isAbsolute, hroot]

/-! ## Places -/

/-- The place that parts of a path lead to from a place, links left aside. -/
def follow (here : List String) : List String → List String
  | [] => here
  | part :: rest =>
    if part = "" ∨ part = "." then follow here rest
    else if part = ".." then follow here.dropLast rest
    else follow (here ++ [part]) rest

/-- The place that a path leads to, links left aside; a relative one leads on from `start`. -/
def place (start : List String) (path : String) : List String :=
  follow (if isAbsolute path then [] else start) (parts path)

theorem follow_append (here ps qs : List String) :
    follow here (ps ++ qs) = follow (follow here ps) qs := by
  induction ps generalizing here with
  | nil => rfl
  | cons part ps ih =>
    simp only [List.cons_append, follow, ih]
    split
    · rfl
    · split <;> rfl

/-- Without two dots, parts lead downwards only. -/
theorem follow_of_not_mem (h : ".." ∉ ps) :
    follow here ps = here ++ ps.filter fun part => part != "" && part != "." := by
  induction ps generalizing here with
  | nil => simp [follow]
  | cons part ps ih =>
    rw [List.mem_cons, not_or] at h
    obtain ⟨hpart, hps⟩ := h
    by_cases hskip : part = "" ∨ part = "."
    · have hfilter : (part != "" && part != ".") = false := by rcases hskip with rfl | rfl <;> rfl
      simp only [follow, hskip, if_true, ih hps, List.filter_cons, hfilter, Bool.false_eq_true,
        if_false]
    · have hfilter : (part != "" && part != ".") = true := by simpa [not_or] using hskip
      simp only [follow, hskip, Ne.symm hpart, if_false, ih hps, List.filter_cons, hfilter, if_true,
        List.append_assoc, List.singleton_append]

/-- **A relative path without two dots leads on from the root, by its names.** -/
theorem place_join (start : List String) (root : String) (habsolute : isAbsolute relative = false)
    (hclimbs : ".." ∉ parts relative) :
    place start (join root relative) = place start root ++ names relative := by
  obtain ⟨ps, tail, htail, hroot, hjoin⟩ := parts_join root
  have hends (here : List String) : follow here tail = here := by
    rcases htail with rfl | rfl <;> rfl
  rw [place, place, isAbsolute_join habsolute, hjoin relative habsolute, hroot, follow_append,
    follow_append, hends, follow_of_not_mem hclimbs]
  rfl

end Path

/-! ## On a disk -/

namespace Node

variable {n found : Node} {ps qs : List String} {name : String}

theorem at?_append (n : Node) (ps qs : List String) :
    n.at? (ps ++ qs) = (n.at? ps).bind (·.at? qs) := by
  induction ps generalizing n with
  | nil => rfl
  | cons part ps ih =>
    simp only [List.cons_append, at?]
    cases n.child? part with
    | none => rfl
    | some child => exact ih child

/-- What stands below stands in an entry of a directory. -/
theorem exists_entry_of_at? (h : n.at? (name :: ps) = some found) :
    ∃ entries child, n = .directory entries ∧ entries.lookup name = some child ∧
      child.at? ps = some found := by
  cases n with
  | file bytes => cases h
  | link target => cases h
  | directory entries =>
    simp only [at?, child?] at h
    cases hentry : entries.lookup name with
    | none =>
      rw [hentry] at h
      cases h
    | some child =>
      rw [hentry] at h
      exact ⟨entries, child, rfl, hentry, h⟩

end Node

namespace Volume

open Disk

variable {v : Volume} {links : Nat} {here place names : List String} {n found : Node}

/-- Whether the system takes a text for the name of an entry. -/
def IsName (name : String) : Prop :=
  name ≠ "" ∧ name ≠ "." ∧ name ≠ ".." ∧ name.utf8ByteSize ≤ 255

instance (name : String) : Decidable (IsName name) :=
  inferInstanceAs (Decidable (_ ∧ _ ∧ _ ∧ _))

/-- A name leads to the entry that has it, unless that is a link. -/
theorem walk_name {entries : List (String × Node)} {name : String} {child : Node}
    (hhere : v.top.at? here = some (.directory entries)) (hname : IsName name)
    (hentry : entries.lookup name = some child) (hlink : ∀ target, child ≠ .link target)
    (rest : List String) :
    v.walk links here (name :: rest) = v.walk links (here ++ [name]) rest := by
  obtain ⟨hempty, hdot, hup, hlong⟩ := hname
  cases child with
  | link target => exact absurd rfl (hlink target)
  | file bytes => simp [walk, hhere, hempty, hdot, hup, Nat.not_lt.mpr hlong, hentry]
  | directory below => simp [walk, hhere, hempty, hdot, hup, Nat.not_lt.mpr hlong, hentry]

/-- A part of a path leads nowhere, whatever follows it, or it leads on. With a link the parts of
its target come in front of what follows, and there are fewer links left. -/
theorem walk_cons (v : Volume) (links : Nat) (here : List String) (part : String) :
    (∃ fault, ∀ rest, v.walk links here (part :: rest) = .error fault) ∨
    ∃ left next before,
      (∀ rest, v.walk links here (part :: rest) = v.walk left next (before ++ rest)) ∧
      (left < links ∨ left = links ∧ before = []) := by
  have hplain (next : List String)
      (h : ∀ rest, v.walk links here (part :: rest) = v.walk links next rest) :
      ∃ left next before,
        (∀ rest, v.walk links here (part :: rest) = v.walk left next (before ++ rest)) ∧
        (left < links ∨ left = links ∧ before = []) := ⟨links, next, [], h, .inr ⟨rfl, rfl⟩⟩
  rcases hhere : v.top.at? here with _ | bytes | target | entries
  · exact .inl ⟨.notDirectory, fun rest => by simp only [walk, hhere]⟩
  · exact .inl ⟨.notDirectory, fun rest => by simp only [walk, hhere]⟩
  · exact .inl ⟨.notDirectory, fun rest => by simp only [walk, hhere]⟩
  by_cases hskip : part = "" ∨ part = "."
  · exact .inr (hplain here fun rest => by simp [walk, hhere, hskip])
  by_cases hup : part = ".."
  · exact .inr (hplain here.dropLast fun rest => by simp [walk, hhere, hup])
  obtain ⟨hempty, hdot⟩ := not_or.mp hskip
  by_cases hlong : 255 < part.utf8ByteSize
  · exact .inl ⟨.tooLong, fun rest => by simp [walk, hhere, hempty, hdot, hup, hlong]⟩
  cases hentry : entries.lookup part with
  | none =>
    exact .inl ⟨.missing, fun rest => by simp [walk, hhere, hempty, hdot, hup, hlong, hentry]⟩
  | some child =>
    have hname : IsName part := ⟨hempty, hdot, hup, Nat.not_lt.mp hlong⟩
    have honward (hlink : ∀ target, child ≠ .link target) :=
      hplain (here ++ [part]) (walk_name hhere hname hentry hlink)
    cases child with
    | file bytes => exact .inr (honward fun target h => by cases h)
    | directory below => exact .inr (honward fun target h => by cases h)
    | link target =>
      cases links with
      | zero =>
        exact .inl ⟨.tooManyLinks, fun rest => by
          simp [walk, hhere, hempty, hdot, hup, hlong, hentry]⟩
      | succ links =>
        refine .inr ⟨links, if Path.isAbsolute target then [] else here, Path.parts target,
          fun rest => ?_, .inl (Nat.lt_succ_self links)⟩
        simp [walk, hhere, hempty, hdot, hup, hlong, hentry]

/-- The system takes a path part by part: what stands behind some parts makes no difference to where
these lead, or to their leading nowhere. -/
theorem walk_append (v : Volume) (links : Nat) (here ps : List String) :
    (∃ fault, ∀ rest, v.walk links here (ps ++ rest) = .error fault) ∨
    ∃ left place, ∀ rest, v.walk links here (ps ++ rest) = v.walk left place rest := by
  induction links using Nat.strongRecOn generalizing here ps with
  | ind links ihlinks =>
    induction ps generalizing here with
    | nil => exact .inr ⟨links, here, fun rest => rfl⟩
    | cons part ps ih =>
      rcases v.walk_cons links here part with ⟨fault, hfault⟩ | ⟨left, next, before, hwalk, hleft⟩
      · exact .inl ⟨fault, fun rest => hfault (ps ++ rest)⟩
      · simp only [List.cons_append, hwalk]
        rcases hleft with hlt | ⟨rfl, rfl⟩
        · simpa only [List.append_assoc] using ihlinks left hlt next (before ++ ps)
        · exact ih next

/-- From a directory the names of a file below lead to it. -/
theorem walk_names {bytes : List UInt8} (hhere : v.top.at? here = some n)
    (hnames : ∀ name ∈ names, IsName name) (hat : n.at? names = some (.file bytes)) :
    v.walk links here names = .ok (here ++ names) ∧
      v.top.at? (here ++ names) = some (.file bytes) := by
  induction names generalizing here n with
  | nil =>
    obtain rfl := Option.some.inj hat
    rw [List.append_nil]
    exact ⟨by simp only [walk], hhere⟩
  | cons name names ih =>
    obtain ⟨hname, hnames⟩ := List.forall_mem_cons.mp hnames
    obtain ⟨entries, child, rfl, hentry, hbelow⟩ := Node.exists_entry_of_at? hat
    have hlink : ∀ target, child ≠ .link target := by
      rintro target rfl
      cases names <;> cases hbelow
    have hnext : v.top.at? (here ++ [name]) = some child := by
      rw [Node.at?_append, hhere]
      simp [Node.at?, Node.child?, hentry]
    rw [walk_name hhere hname hentry hlink]
    simpa using ih hnext hnames hbelow

/-- A path that leads to something leads to a place. -/
theorem exists_walk_of_find {path : String} (h : v.find path = .ok n) :
    ∃ place,
      v.walk 40 (if Path.isAbsolute path then [] else v.start) (Path.parts path) = .ok place ∧
      v.top.at? place = some n := by
  unfold find at h
  split at h
  · cases h
  split at h
  · cases h
  split at h
  · cases h
  split at h
  · cases h
  · next place hwalk =>
    refine ⟨place, hwalk, ?_⟩
    cases hat : v.top.at? place with
    | none =>
      rw [hat] at h
      cases h
    | some found =>
      rw [hat] at h
      exact congrArg some (Except.ok.inj h)

theorem eq_of_walk_tail {tail : List String} (htail : tail = [] ∨ tail = [""])
    (h : v.walk links here tail = .ok place) : place = here := by
  rcases htail with rfl | rfl
  · rw [walk] at h
    exact (Except.ok.inj h).symm
  · rw [walk] at h
    split at h
    · rw [if_pos (by decide), walk] at h
      exact (Except.ok.inj h).symm
    · cases h

/-- Whether the system takes a path: it is not too long, nor is a name in it, and it does not hold
the character that would end it. -/
structure Takes (path : String) : Prop where
  noNul : '\x00' ∉ path.toList
  short : path.utf8ByteSize < 4096
  names : ∀ part ∈ Path.parts path, part.utf8ByteSize ≤ 255

/-- **A path joined to the root of a directory leads to the file that stands there below**, whatever
links there are on the way to the root. -/
theorem find_join {root path : String} {bytes : List UInt8} (hroot : v.find root = .ok n)
    (hat : n.at? (Path.parts path) = some (.file bytes))
    (hnames : ∀ name ∈ Path.parts path, name ≠ "" ∧ name ≠ "." ∧ name ≠ "..")
    (htakes : Takes (Path.join root path)) :
    v.find (Path.join root path) = .ok (.file bytes) := by
  have habsolute : Path.isAbsolute path = false := by
    refine Bool.eq_false_iff.mpr fun h => ?_
    exact (hnames "" (Path.mem_parts_of_head? (by simpa [Path.isAbsolute] using h))).1 rfl
  obtain ⟨ps, tail, htail, hparts, hjoin⟩ := Path.parts_join root
  obtain ⟨place, hwalk, hplace⟩ := exists_walk_of_find hroot
  rw [hparts] at hwalk
  rcases v.walk_append 40 (if Path.isAbsolute root then [] else v.start) ps with
    ⟨fault, hfault⟩ | ⟨left, mid, hmid⟩
  · rw [hfault] at hwalk
    cases hwalk
  rw [hmid] at hwalk
  obtain rfl : place = mid := eq_of_walk_tail htail hwalk
  have hfull : Path.parts (Path.join root path) = ps ++ Path.parts path := hjoin path habsolute
  have hproper : ∀ name ∈ Path.parts path, IsName name := fun name hname => by
    obtain ⟨hempty, hdot, hup⟩ := hnames name hname
    refine ⟨hempty, hdot, hup, htakes.names name ?_⟩
    rw [hfull]
    exact List.mem_append_right ps hname
  have hnil : Path.join root path ≠ "" := fun hnil => by
    have hempty : ∀ name ∈ Path.parts path, name = "" := fun name hname => by
      have hmem : name ∈ Path.parts "" := hnil ▸ hfull ▸ List.mem_append_right ps hname
      simpa [Path.parts] using hmem
    obtain ⟨name, hname⟩ := List.exists_mem_of_ne_nil _ (Path.parts_ne_nil path)
    exact (hnames name hname).1 (hempty name hname)
  obtain ⟨hbelow, hfile⟩ :
      v.walk left place (Path.parts path) = .ok (place ++ Path.parts path) ∧ _ :=
    walk_names hplace hproper hat
  refine find_of_walk htakes.noNul hnil htakes.short ?_ hfile
  rw [Path.isAbsolute_join habsolute, hfull, hmid, hbelow]

end Volume

end IncludeTree
