/-!
This module contains small texts that several output forms share, and how sets of characters are
given.
-/

namespace SchemaBridge

namespace Text

def ofBool (b : Bool) : String :=
  if b then "true" else "false"

/--
The items between brackets, separated by commas.
-/
def bracketed (items : List String) : String :=
  "[" ++ ", ".intercalate items ++ "]"

/--
Whether a character lies in one of the ranges of code points, each given by its first and its last.
-/
def inRanges (ranges : List (Nat × Nat)) (c : Char) : Bool :=
  ranges.any fun range => range.1 ≤ c.toNat && c.toNat ≤ range.2

end Text

end SchemaBridge
