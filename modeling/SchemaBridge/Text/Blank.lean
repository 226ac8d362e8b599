import SchemaBridge.Text.Basic

/-!
This module contains the white space of all scripts, and the trimming of text.
-/

namespace SchemaBridge

namespace Text

/--
The ranges of white space in ascending order.
-/
def blankRanges : List (Nat × Nat) :=
  [(0x9, 0xd), (0x20, 0x20), (0x85, 0x85), (0xa0, 0xa0), (0x1680, 0x1680), (0x2000, 0x200a),
    (0x2028, 0x2029), (0x202f, 0x202f), (0x205f, 0x205f), (0x3000, 0x3000)]

def isBlank (c : Char) : Bool :=
  inRanges blankRanges c

/--
The characters without the white space at both ends.
-/
def trim (cs : List Char) : List Char :=
  ((cs.dropWhile isBlank).reverse.dropWhile isBlank).reverse

end Text

end SchemaBridge
