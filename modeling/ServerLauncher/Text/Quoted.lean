import ServerLauncher.Text.Digits
import ServerLauncher.Text.Printable
import ServerLauncher.Text.Utf8

/-!
# Quoted texts

Messages and logs show a text or a path between double quotes, in a form that fits on one line
and shows every character. `quote` writes a text so, and `quoteBytes` a byte string that need not
be UTF-8 : its broken bytes are written `\xFF`, in upper case, while characters that are not
printable are written `\u` with the code point in braces, in lower case.
-/

namespace ServerLauncher

/-- A character as it stands between the quotes. -/
def quoteChar (c : Char) : List Char :=
  match c with
  | '"' => ['\\', '"']
  | '\\' => ['\\', '\\']
  | '\t' => ['\\', 't']
  | '\r' => ['\\', 'r']
  | '\n' => ['\\', 'n']
  | '\x00' => ['\\', '0']
  | c => if isPrintable c then [c] else ['\\', 'u', '\x7b'] ++ hexDigits c.toNat ++ ['\x7d']

/-- A broken byte as it stands between the quotes. -/
def quoteByte (b : UInt8) : List Char :=
  ['\\', 'x'] ++ (hexDigits (b.toNat / 16) ++ hexDigits (b.toNat % 16)).map Char.toUpper

/-- A text in double quotes. -/
def quote (s : String) : String :=
  String.ofList ('"' :: s.toList.flatMap quoteChar ++ ['"'])

/-- A piece of a byte string as it stands between the quotes. -/
def quotePiece : Utf8.Piece → List Char
  | .char c => quoteChar c
  | .broken bs => bs.flatMap quoteByte

/-- A byte string in double quotes. -/
def quoteBytes (bs : Bytes) : String :=
  String.ofList ('"' :: (Utf8.pieces bs).flatMap quotePiece ++ ['"'])

end ServerLauncher
