import CodeIndex.Unicode.Ranges

/-!
# White space

The characters with the Unicode property `White_Space`.
-/

namespace CodeIndex.Unicode

def blanks : List (Nat × Nat) := [
  (0x9, 0xd), (0x20, 0x20), (0x85, 0x85), (0xa0, 0xa0), (0x1680, 0x1680), (0x2000, 0x200a),
  (0x2028, 0x2029), (0x202f, 0x202f), (0x205f, 0x205f), (0x3000, 0x3000)]

def isBlank (c : Char) : Bool := inRanges blanks c

/-- A text of white space alone. -/
def isBlankText (s : String) : Bool := s.toList.all isBlank

/-- A text without the white space at its end. -/
def trimEnd (s : List Char) : List Char := (s.reverse.dropWhile isBlank).reverse

/-- A text without the white space at both ends. -/
def trim (s : List Char) : List Char := trimEnd (s.dropWhile isBlank)

end CodeIndex.Unicode
