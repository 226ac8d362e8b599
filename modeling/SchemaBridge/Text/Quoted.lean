import SchemaBridge.Text.Unprintable

/-!
This module contains the quoted form in which messages show text: what cannot be printed is written
as an escape.
-/

namespace SchemaBridge

namespace Text

/--
The code point of `c` in hexadecimal between braces.
-/
def codePointEscape (c : Char) : List Char :=
  '\\' :: 'u' :: '{' :: Nat.toDigits 16 c.toNat ++ ['}']

def shownChar (c : Char) : List Char :=
  match c with
  | '\x00' => ['\\', '0']
  | '\t' => ['\\', 't']
  | '\r' => ['\\', 'r']
  | '\n' => ['\\', 'n']
  | '"' => ['\\', '"']
  | '\\' => ['\\', '\\']
  | c =>
    if c.toNat < 0x20 || isUnprintable c then codePointEscape c else [c]

/--
The text between quotes.
-/
def quoted (s : String) : String :=
  String.ofList ('"' :: (s.toList.flatMap shownChar ++ ['"']))

end Text

end SchemaBridge
