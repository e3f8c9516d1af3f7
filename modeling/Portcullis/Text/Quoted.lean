import Portcullis.Text.Printable
/-! Quoted text: how a string is shown inside a report.

A string stands between double quotes. Quotes and backslashes in it are escaped,
NUL, tab, line feed and carriage return have short escapes, and every other
character that does not show is written by its code point in braces. -/
namespace Portcullis.Text

/-- One character inside quotes. -/
def shown (c : Char) : List Char :=
  match c with
  | '\x00' => ['\\', '0']
  | '\t' => ['\\', 't']
  | '\r' => ['\\', 'r']
  | '\n' => ['\\', 'n']
  | '"' => ['\\', '"']
  | '\\' => ['\\', '\\']
  | c =>
    if isPrintable c then [c]
    else ['\\', 'u', '{'] ++ Nat.toDigits 16 c.toNat ++ ['}']

/-- A string between double quotes, with everything that does not show escaped. -/
def quoted (s : String) : String :=
  String.ofList ('"' :: s.toList.flatMap shown ++ ['"'])

end Portcullis.Text
