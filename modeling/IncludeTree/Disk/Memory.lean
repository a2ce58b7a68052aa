import IncludeTree.Disk.Basic
import IncludeTree.Disk.Path

/-!
# A disk in memory

`Volume` is a disk that is held in memory: a tree of directories, regular files and symbolic links,
and the directory in which relative paths start. `Volume.walk` follows a path part by part; a link
puts the parts of its target in front of those that remain, and forty links are as many as it
follows.
-/

namespace IncludeTree

/-- What stands at a place of a disk. -/
inductive Node where
  /-- A regular file. -/
  | file (bytes : List UInt8)
  /-- A symbolic link. -/
  | link (target : String)
  /-- A directory. -/
  | directory (entries : List (String × Node))
deriving Repr, Inhabited

namespace Node

/-- The entry of a directory with a name. -/
def child? (name : String) : Node → Option Node
  | directory entries => entries.lookup name
  | _ => none

/-- What stands at a place below, links not followed. -/
def at? (n : Node) : List String → Option Node
  | [] => some n
  | name :: rest =>
    match n.child? name with
    | some child => child.at? rest
    | none => none

/-- The entries with what stands at a name changed; `none` means that nothing stands there. -/
def alter (name : String) (f : Option Node → Node) : List (String × Node) → List (String × Node)
  | [] => [(name, f none)]
  | (n, child) :: rest =>
    if n = name then (n, f (some child)) :: rest else (n, child) :: alter name f rest

/-- Puts a node at a place below; directories on the way are made as needed. -/
def put (new : Node) : List String → Node → Node
  | [], _ => new
  | name :: rest, n =>
    let entries := match n with
      | directory entries => entries
      | _ => []
    directory (alter name (fun child => put new rest (child.getD (directory []))) entries)

mutual

/-- The regular files below, as lists of names; nothing named `.git` is looked at. -/
def files : Node → List (List String)
  | file _ => [[]]
  | link _ => []
  | directory entries => filesOf entries

/-- The regular files at and below the entries of a directory. -/
def filesOf : List (String × Node) → List (List String)
  | [] => []
  | (name, child) :: rest =>
    (if name = ".git" then [] else child.files.map (name :: ·)) ++ filesOf rest

end

end Node

/-- A disk that is held in memory. -/
structure Volume where
  /-- The directory at the top. -/
  top : Node
  /-- The directory in which relative paths start. -/
  start : List String := []

namespace Volume

open Disk

/-- The place that the remaining parts of a path lead to from a place; `links` is the number of
links that may yet be followed. -/
def walk (v : Volume) (links : Nat) (here : List String) (remaining : List String) :
    Except Fault (List String) :=
  match remaining with
  | [] => .ok here
  | part :: rest =>
    match v.top.at? here with
    | some (.directory entries) =>
      if part = "" || part = "." then v.walk links here rest
      else if part = ".." then v.walk links here.dropLast rest
      else if 255 < part.utf8ByteSize then .error .tooLong
      else
        match entries.lookup part with
        | none => .error .missing
        | some (.link target) =>
          match links with
          | 0 => .error .tooManyLinks
          | links + 1 =>
            v.walk links (if Path.isAbsolute target then [] else here) (Path.parts target ++ rest)
        | some _ => v.walk links (here ++ [part]) rest
    | _ => .error .notDirectory
termination_by (links, remaining.length)

/-- What a path leads to. -/
def find (v : Volume) (path : String) : Except Fault Node :=
  if path.toList.contains '\x00' then .error .nulCharacter
  else if path = "" then .error .missing
  else if 4096 ≤ path.utf8ByteSize then .error .tooLong
  else
    match v.walk 40 (if Path.isAbsolute path then [] else v.start) (Path.parts path) with
    | .error e => .error e
    | .ok place => ((v.top.at? place).map .ok).getD (.error .missing)

/-- The text of the file that a path leads to. -/
def read (v : Volume) (path : String) : Except Fault String :=
  match v.find path with
  | .error e => .error e
  | .ok (.file bytes) =>
    match String.fromUTF8? ⟨bytes.toArray⟩ with
    | some text => .ok text
    | none => .error .notText
  | .ok _ => .error .isDirectory

/-- The regular files below what a path leads to. -/
def files (v : Volume) (path : String) : Except Fault (List String) :=
  match v.find path with
  | .error e => .error e
  | .ok n =>
    .ok (if Path.fileName? path = some ".git" then [] else n.files.map ("/".intercalate ·))

/-- The volume as a disk. -/
def disk (v : Volume) : Disk Id where
  read path := v.read path
  files path := v.files path

end Volume

end IncludeTree
