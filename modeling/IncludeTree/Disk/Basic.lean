/-!
# Disks

A `Disk` is what the working tree is read from. Its answers are computations, so that it may be a
real disk as well as one that is held in memory. `Disk.Fault` is why one cannot be given, in the
words of the system.
-/

namespace IncludeTree

/-- A reason why a path leads to nothing that can be read. -/
inductive Disk.Fault where
  /-- Nothing stands there. -/
  | missing
  /-- A part that others follow is no directory. -/
  | notDirectory
  /-- A directory stands there. -/
  | isDirectory
  /-- Too many links stand on the way. -/
  | tooManyLinks
  /-- A name or the whole path is too long. -/
  | tooLong
  /-- The reader has no right to it. -/
  | notPermitted
  /-- The path holds the character that ends it. -/
  | nulCharacter
  /-- The content is not UTF-8. -/
  | notText
  /-- Anything else, in the words of the system. -/
  | other (text : String)
deriving DecidableEq, Repr

namespace Disk.Fault

/-- The wording of a fault. -/
def message : Fault → String
  | missing => "No such file or directory (os error 2)"
  | notDirectory => "Not a directory (os error 20)"
  | isDirectory => "Is a directory (os error 21)"
  | tooManyLinks => "Too many levels of symbolic links (os error 40)"
  | tooLong => "File name too long (os error 36)"
  | notPermitted => "Permission denied (os error 13)"
  | nulCharacter => "file name contained an unexpected NUL byte"
  | notText => "stream did not contain valid UTF-8"
  | other text => text

/-- The fault that a number of the system stands for. -/
def ofNumber? (n : Nat) : Option Fault :=
  [(2, missing), (13, notPermitted), (20, notDirectory), (21, isDirectory), (36, tooLong),
    (40, tooManyLinks)].lookup n

end Disk.Fault

/-- What files are read from. -/
structure Disk (m : Type → Type) where
  /-- The text of the file that a path leads to. -/
  read : String → m (Except Disk.Fault String)
  /-- The regular files below the directory that a path leads to, by their paths from there, in any
  order. Nothing named `.git` is looked into or listed. -/
  files : String → m (Except Disk.Fault (List String))

end IncludeTree
