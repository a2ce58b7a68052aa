import IncludeTree.Text.Bytes

/-!
# Percent encoding

A byte is written as a percent sign and two hexadecimal digits. Each part of a URL has its own set
of ASCII characters that are written so; controls and everything outside ASCII always are.
-/

namespace IncludeTree.Url.Percent

/-- An upper-case hexadecimal digit. -/
def upperDigit (n : Nat) : Char :=
  if n % 16 < 10 then Char.ofNat (48 + n % 16) else Char.ofNat (55 + n % 16)

/-- The encoded form of a byte. -/
def encodeByte (b : UInt8) : List Char :=
  ['%', upperDigit (b.toNat / 16), upperDigit b.toNat]

/-- Encodes the controls, the characters outside ASCII and those listed. -/
def encode (listed : List Char) (s : List Char) : List Char :=
  s.flatMap fun c =>
    if c.toNat < 0x20 || 0x7F ≤ c.toNat || listed.contains c then
      (String.utf8EncodeChar c).flatMap encodeByte
    else [c]

/-- The characters encoded in a fragment. -/
def fragmentSet : List Char := [' ', '"', '<', '>', '`']

/-- The characters encoded in the query of an http or https URL. -/
def querySet : List Char := [' ', '"', '#', '<', '>', '\'']

/-- The characters encoded in a path. -/
def pathSet : List Char := [' ', '"', '#', '<', '>', '?', '`', '{', '}']

/-- The characters encoded in a user name or a password. -/
def userSet : List Char := pathSet ++ ['/', ':', ';', '=', '@', '[', '\\', ']', '^', '|']

/-- The value of a hexadecimal digit. -/
def digit? (b : UInt8) : Option Nat :=
  let n := b.toNat
  if 48 ≤ n && n ≤ 57 then some (n - 48)
  else if 65 ≤ n && n ≤ 70 then some (n - 55)
  else if 97 ≤ n && n ≤ 102 then some (n - 87)
  else none

/-- The bytes with every encoded byte decoded; a percent sign that encodes nothing stays. -/
def decode : List UInt8 → List UInt8
  | [] => []
  | 0x25 :: a :: b :: rest =>
    match digit? a, digit? b with
    | some x, some y => (16 * x + y).toUInt8 :: decode rest
    | _, _ => 0x25 :: decode (a :: b :: rest)
  | b :: rest => b :: decode rest

/-- The characters that bytes denote, if they are UTF-8. -/
def characters? (bs : List UInt8) : Option (List Char) :=
  (String.fromUTF8? ⟨bs.toArray⟩).map (·.toList)

end IncludeTree.Url.Percent
