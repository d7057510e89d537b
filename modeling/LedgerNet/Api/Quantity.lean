import LedgerNet.Text.Numeral

/-!
# Quantities

The contract lane writes numbers in base sixteen: `0x` or `0X`, then digits.
A plus sign between the two is let through, as it is in all numbers that
are read.
-/

namespace LedgerNet.Quantity

/-- The text after the mark of base sixteen. -/
def afterMark? : List Char → Option (List Char)
  | '0' :: 'x' :: digits => some digits
  | '0' :: 'X' :: digits => some digits
  | _ => none

/-- **Reading a quantity** of up to 128 bits. -/
def ofText? (s : String) : Option Nat :=
  (afterMark? s.toList).bind (Text.unsigned? 16 (2 ^ 128))

end LedgerNet.Quantity
