import Scratchpad.Text.Hidden

/-!
# Quoted text

A text between double quotes, as it appears inside messages. The double quote and the
backslash are escaped by a backslash, the null character and the common controls have
short escapes, any other hidden character is written by its code point in lower-case
hexadecimal without padding, and everything else stands for itself.
-/

set_option autoImplicit false

namespace Scratchpad.Text

/-- Lower-case hexadecimal digits without leading zeros. -/
def hexDigits (n : Nat) : List Char :=
  Nat.toDigits 16 n

def quoteChar (c : Char) : List Char :=
  match c with
  | '\x00' => ['\\', '0']
  | '\t' => ['\\', 't']
  | '\n' => ['\\', 'n']
  | '\r' => ['\\', 'r']
  | '"' => ['\\', '"']
  | '\\' => ['\\', '\\']
  | c => if isHidden c then '\\' :: 'u' :: '\x7b' :: hexDigits c.toNat ++ ['\x7d'] else [c]

def quoted (text : String) : String :=
  String.ofList ('"' :: text.toList.flatMap quoteChar ++ ['"'])

end Scratchpad.Text
