import LedgerNet.Number.Power

/-!
# Reading numbers

Whole numbers as they stand in environment variables, subnets, quantities
and number strings. One rule serves all of them: an optional sign, then at
least one digit of the base, then nothing. A plus sign is always allowed, a
minus sign only where negative numbers are, and blanks nowhere. What the
digits denote must fit the bound of the reader; leading zeros are no matter.
-/

namespace LedgerNet.Text

/-- The value of a digit in base sixteen, and so in every base below. -/
def digitValue (c : Char) : Option Nat :=
  if '0' ≤ c ∧ c ≤ '9' then some (c.toNat - '0'.toNat)
  else if 'a' ≤ c ∧ c ≤ 'f' then some (c.toNat - 'a'.toNat + 10)
  else if 'A' ≤ c ∧ c ≤ 'F' then some (c.toNat - 'A'.toNat + 10)
  else none

/-- A digit of a base of at most sixteen. -/
def digit? (base : Nat) (c : Char) : Option Nat :=
  (digitValue c).filter (· < base)

/-- Digits appended to a number already read. -/
def digitsFrom (base : Nat) : Nat → List Char → Option Nat
  | value, [] => some value
  | value, c :: rest => do digitsFrom base (value * base + (← digit? base c)) rest

/-- **At least one digit of the base, and nothing else.** -/
def digits? (base : Nat) (cs : List Char) : Option Nat :=
  if cs.isEmpty then none else digitsFrom base 0 cs

/-- The text after an optional plus sign. -/
def dropPlus : List Char → List Char
  | '+' :: rest => rest
  | cs => cs

/-- **An unsigned number below `bound`**: an optional plus sign and digits
of the base. -/
def unsigned? (base bound : Nat) (cs : List Char) : Option Nat :=
  (digits? base (dropPlus cs)).filter (· < bound)

/-- A signed number from `-bound` up to, and not including, `bound`: an
optional sign and decimal digits. -/
def signed? (bound : Nat) : List Char → Option Int
  | '-' :: rest => ((digits? 10 rest).filter (· ≤ bound)).map fun n => -(n : Int)
  | cs => (unsigned? 10 bound cs).map Int.ofNat

/-- A decimal number of 64 bits. -/
def readUInt64? (s : String) : Option UInt64 :=
  (unsigned? 10 (2 ^ 64) s.toList).map UInt64.ofNat

/-- A decimal number of 8 bits. -/
def readUInt8? (s : String) : Option UInt8 :=
  (unsigned? 10 (2 ^ 8) s.toList).map UInt8.ofNat

/-- A decimal number of 64 bits with a sign. -/
def readInt64? (s : String) : Option Int :=
  signed? (2 ^ 63) s.toList

/-- A truth value is the word `true` or the word `false`. -/
def readBool? (s : String) : Option Bool :=
  if s = "true" then some true else if s = "false" then some false else none

/-- A byte as two hexadecimal digits, lower case. -/
def hexByte (b : UInt8) : List Char :=
  [Nat.digitChar (b.toNat / 16), Nat.digitChar (b.toNat % 16)]

/-- Bytes as hexadecimal digits, two for each. -/
def hexBytes (bytes : List UInt8) : String :=
  String.ofList (bytes.flatMap hexByte)

/-- Bytes from pairs of hexadecimal digits. -/
def readHexBytes? : List Char → Option (List UInt8)
  | [] => some []
  | high :: low :: rest => do
    let h ← digit? 16 high
    let l ← digit? 16 low
    return UInt8.ofNat (h * 16 + l) :: (← readHexBytes? rest)
  | [_] => none

end LedgerNet.Text
