import DtoInterfaces.Text.Visible

/-!
# Texts quoted inside messages

A message that shows a text the reader has written puts it between double quotes, so that its
ends can be seen, and writes every character that would not be visible as an escape.

## Main definitions

* `quoteChar` — how one character is shown between the quotes.
* `quoted` — the text as it is shown.
-/

namespace DtoInterfaces

namespace Text

/-- The digits of a number in base sixteen, in lower case and without leading zeros. -/
def hexDigits (n : Nat) : List Char := Nat.toDigits 16 n

/-- How a message shows one character of a text: the quote, the backslash and the usual controls
by their short escapes, a character that is not visible on its own by its code point in base
sixteen between braces, and any other character as it is. -/
def quoteChar (c : Char) : List Char :=
  match c with
  | '\x00' => ['\\', '0']
  | '\t' => ['\\', 't']
  | '\r' => ['\\', 'r']
  | '\n' => ['\\', 'n']
  | '"' => ['\\', '"']
  | '\\' => ['\\', '\\']
  | _ => if isShown c then [c] else '\\' :: 'u' :: '\x7b' :: hexDigits c.toNat ++ ['\x7d']

/-- A text as a message shows it: between double quotes, with the escapes of `quoteChar`. -/
def quoted (text : String) : String :=
  String.ofList ('"' :: text.toList.flatMap quoteChar ++ ['"'])

end Text

end DtoInterfaces
