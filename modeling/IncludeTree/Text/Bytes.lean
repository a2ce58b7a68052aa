/-!
# Bytes of a text

`bytes` is the UTF-8 form of a text. The order of the code points is the order of the bytes, so
texts sorted as strings are sorted by their bytes.
-/

namespace IncludeTree.Text

/-- The UTF-8 form of a list of characters. -/
def bytes (s : List Char) : List UInt8 := s.flatMap String.utf8EncodeChar

@[simp] theorem bytes_nil : bytes [] = [] := rfl

@[simp] theorem bytes_cons (c : Char) (s : List Char) :
    bytes (c :: s) = String.utf8EncodeChar c ++ bytes s := by
  simp [bytes]

@[simp] theorem bytes_append (s t : List Char) : bytes (s ++ t) = bytes s ++ bytes t := by
  simp [bytes]

end IncludeTree.Text
