import LedgerNet.Text.Visible

/-!
# Quoted text

Values are shown to people with their texts in double quotes, so that a
text with blanks or quotes in it cannot be mistaken for two. A quote and a
backslash are written with a backslash before them, the four common
controls by a letter, and a character without a visible form by its code
point in hexadecimal. What is visible stays as it is, in any script.
-/

namespace LedgerNet.Text

/-- The code point in lower-case hexadecimal, without leading zeros. -/
def hexDigits (n : Nat) : List Char :=
  Nat.toDigits 16 n

/-- **One character between quotes.** -/
def quoteChar (c : Char) : List Char :=
  match c with
  | '"' => ['\\', '"']
  | '\\' => ['\\', '\\']
  | '\n' => ['\\', 'n']
  | '\r' => ['\\', 'r']
  | '\t' => ['\\', 't']
  | '\x00' => ['\\', '0']
  | _ =>
    if isVisible c then [c]
    else ['\\', 'u', '\x7b'] ++ hexDigits c.toNat ++ ['\x7d']

/-- **A quoted text**: each character by `quoteChar`, between two quotes. -/
def quote (s : String) : String :=
  String.ofList ('"' :: s.toList.flatMap quoteChar ++ ['"'])

/-- A list of texts: quoted, separated by a comma and a blank, in square
brackets. -/
def quoteList (items : List String) : String :=
  "[" ++ String.intercalate ", " (items.map quote) ++ "]"

/-- A book of texts: quoted keys and values with a colon between them, in
curly brackets. -/
def quoteBook (entries : List (String × String)) : String :=
  "\x7b" ++ String.intercalate ", "
    (entries.map fun entry => quote entry.1 ++ ": " ++ quote entry.2) ++ "\x7d"

end LedgerNet.Text
