import LedgerNet.Text.Numeral

/-!
# Decimal texts

The parts of a number as people write it: whole digits, an optional
fraction and an optional power of ten. What is read is exact: a whole
number of digits and the power of ten they count in.
-/

namespace LedgerNet

open Text

/-- The digits at the front of a text, and what comes after them. -/
def splitDigits (cs : List Char) : List Char × List Char :=
  (cs.takeWhile Char.isDigit, cs.dropWhile Char.isDigit)

/-- An exponent: an optional sign and at least one digit. -/
def exponent? (cs : List Char) : Option Int :=
  match cs with
  | '-' :: rest => (digits? 10 rest).map fun n => -(n : Int)
  | cs => (digits? 10 (dropPlus cs)).map Int.ofNat

/-- **An unsigned decimal number**: `12`, `1.5`, `.5`, `1.`, `2e10`,
`1.5E-3`. At least one digit stands on one side of the point. The answer
is the digits as one whole number and the power of ten they count in. -/
def decimal? (cs : List Char) : Option (Nat × Int) :=
  let (whole, afterWhole) := splitDigits cs
  let (fraction, afterFraction) :=
    match afterWhole with
    | '.' :: rest => splitDigits rest
    | _ => ([], afterWhole)
  let shift : Int := -(fraction.length : Int)
  match digits? 10 (whole ++ fraction), afterFraction with
  | some value, [] => some (value, shift)
  | some value, e :: rest =>
    if e = 'e' ∨ e = 'E' then (exponent? rest).map fun n => (value, shift + n) else none
  | none, _ => none

end LedgerNet
