import LedgerNet.Json.Basic

/-!
# JSON text

Values are written without any blank, members in their order. A string is
written with an escape for the quote, the backslash and the characters
below the blank, and with nothing else escaped.

A number that is not whole is written with the fewest digits that read
back: in place between a thousandth of a percent and sixteen digits before
the point, and with an exponent beyond.
-/

namespace LedgerNet

namespace Json

/-- **One character of a string.** -/
def escapeChar (c : Char) : List Char :=
  match c with
  | '"' => ['\\', '"']
  | '\\' => ['\\', '\\']
  | '\n' => ['\\', 'n']
  | '\r' => ['\\', 'r']
  | '\t' => ['\\', 't']
  | '\x08' => ['\\', 'b']
  | '\x0c' => ['\\', 'f']
  | c =>
    if c.toNat < 0x20 then
      ['\\', 'u', '0', '0', Nat.digitChar (c.toNat / 16), Nat.digitChar (c.toNat % 16)]
    else [c]

/-- A string with its quotes. -/
def renderText (s : String) : String :=
  String.ofList ('"' :: s.toList.flatMap escapeChar ++ ['"'])

/-- A binary number that is neither infinite nor undefined. -/
def renderBinary : Binary → String
  | .finite negative significand exponent =>
    let sign := if negative then "-" else ""
    if significand = 0 then sign ++ "0.0"
    else
      let d := BinaryFormat.double.shortest significand exponent
      let digits := Nat.toDigits 10 d.digits
      let point : Int := digits.length + d.exponent
      if 0 ≤ d.exponent ∧ point ≤ 16 then sign ++ d.positional ++ ".0"
      else if -5 < point ∧ point ≤ 16 then sign ++ d.positional
      else
        let fraction := match digits with
          | [single] => [single]
          | first :: rest => first :: '.' :: rest
          | [] => []
        sign ++ String.ofList fraction ++ "e" ++ toString (point - 1)
  | _ => "null"

/-- A number. -/
def renderNumber : JsonNumber → String
  | .whole value => toString value
  | .binary value => renderBinary value
  | .outOfRange => "null"

mutual

/-- **The text of a value**, without blanks. -/
def render : Json → String
  | .null => "null"
  | .bool true => "true"
  | .bool false => "false"
  | .number value => renderNumber value
  | .text value => renderText value
  | .brokenText => renderText ""
  | .array items => "[" ++ renderItems items ++ "]"
  | .object members => "\x7b" ++ renderMembers members ++ "\x7d"

/-- Items with commas between them. -/
def renderItems : List Json → String
  | [] => ""
  | [last] => render last
  | item :: rest => render item ++ "," ++ renderItems rest

/-- Members with commas between them. -/
def renderMembers : List (Option String × Json) → String
  | [] => ""
  | [(name, value)] => renderText (name.getD "") ++ ":" ++ render value
  | (name, value) :: rest =>
    renderText (name.getD "") ++ ":" ++ render value ++ "," ++ renderMembers rest

end

end Json

end LedgerNet
