import LedgerNet.Json.Basic
import LedgerNet.Text.Numeral

/-!
# Reading JSON

A text is cut into tokens, and the tokens are put together on a stack of
the arrays and objects that are still open. Both passes take every text to
an end: a token is never empty, and each token moves the stack once. There
is no limit on how deep a text may nest. Such limits belong to whoever
reads the values, and the parts that are skipped have none.
-/

namespace LedgerNet

namespace Json

/-- **A token of a JSON text.** -/
inductive Token where
  | openArray
  | closeArray
  | openObject
  | closeObject
  | comma
  | colon
  | scalar (value : Json)

/-- What may stand between tokens. -/
def isSpace (c : Char) : Bool :=
  c == ' ' || c == '\n' || c == '\t' || c == '\r'

/-! ## Strings -/

/-- The character of a one-letter escape. -/
def shortEscape? : Char → Option Char
  | '"' => some '"'
  | '\\' => some '\\'
  | '/' => some '/'
  | 'b' => some '\x08'
  | 'f' => some '\x0c'
  | 'n' => some '\n'
  | 'r' => some '\r'
  | 't' => some '\t'
  | _ => none

/-- The number of four hexadecimal digits. -/
def hex4? (a b c d : Char) : Option Nat :=
  Text.digits? 16 [a, b, c, d]

/-- Whether a code unit is the first half of a surrogate pair. -/
def isHighSurrogate (n : Nat) : Bool := 0xd800 ≤ n && n ≤ 0xdbff

/-- Whether a code unit is the second half of a surrogate pair. -/
def isLowSurrogate (n : Nat) : Bool := 0xdc00 ≤ n && n ≤ 0xdfff

/-- The characters of a string so far, backwards, while they make sense;
a lone half of a surrogate pair spoils them for good. -/
abbrev Collected := Option (List Char)

/-- The value of a string whose characters were collected. -/
def Collected.value : Collected → Json
  | some chars => .text (String.ofList chars.reverse)
  | none => .brokenText

/-- One more character. -/
def Collected.push (collected : Collected) (c : Char) : Collected :=
  collected.map (c :: ·)

/-- **The rest of a string after its opening quote**: its value and the
text after the closing quote. A raw character below the blank is refused. -/
def stringBody (collected : Collected) : List Char → Option (Json × List Char)
  | [] => none
  | '"' :: rest => some (collected.value, rest)
  | '\\' :: 'u' :: a :: b :: c :: d :: '\\' :: 'u' :: e :: f :: g :: h :: rest =>
    match hex4? a b c d with
    | none => none
    | some high =>
      match hex4? e f g h with
      | none => none
      | some low =>
        if isHighSurrogate high && isLowSurrogate low then
          stringBody (collected.push
            (Char.ofNat (0x10000 + (high - 0xd800) * 0x400 + (low - 0xdc00)))) rest
        else if isHighSurrogate high || isLowSurrogate high then
          stringBody none ('\\' :: 'u' :: e :: f :: g :: h :: rest)
        else
          stringBody (collected.push (Char.ofNat high)) ('\\' :: 'u' :: e :: f :: g :: h :: rest)
  | '\\' :: 'u' :: a :: b :: c :: d :: rest =>
    match hex4? a b c d with
    | none => none
    | some unit =>
      if isHighSurrogate unit || isLowSurrogate unit then stringBody none rest
      else stringBody (collected.push (Char.ofNat unit)) rest
  | '\\' :: c :: rest =>
    match shortEscape? c with
    | some escaped => stringBody (collected.push escaped) rest
    | none => none
  | c :: rest => if c.toNat < 0x20 then none else stringBody (collected.push c) rest
termination_by cs => cs.length

/-! ## Numbers -/

/-- The digits of a significand, as a word of 64 bits: digits that no
longer fit are counted and not kept. Before the point a digit left out
counts towards the exponent, after it a digit kept does. -/
structure Significand where
  value : Nat
  exponent : Int
  full : Bool

namespace Significand

/-- One more digit before the point. -/
def pushWhole (s : Significand) (digit : Nat) : Significand :=
  if s.full || 2 ^ 64 ≤ s.value * 10 + digit then
    { s with exponent := s.exponent + 1, full := true }
  else { s with value := s.value * 10 + digit }

/-- One more digit after the point. -/
def pushFraction (s : Significand) (digit : Nat) : Significand :=
  if s.full || 2 ^ 64 ≤ s.value * 10 + digit then { s with full := true }
  else { s with value := s.value * 10 + digit, exponent := s.exponent - 1 }

end Significand

/-- The decimal value of a digit character. -/
def decimalValue (c : Char) : Nat := c.toNat - '0'.toNat

/-- **The binary number of a significand and a power of ten.** The two are
rounded on their own before they are multiplied or divided; a power beyond
the format is divided away in steps. -/
def binaryOfParts (negative : Bool) (significand : Nat) (exponent : Int) : JsonNumber :=
  let rounded (n : Nat) : Nat × Int :=
    match BinaryFormat.double.nearest false n 1 with
    | .finite _ m q => (m, q)
    | _ => (0, 0)
  let (m, q) := rounded significand
  if m = 0 then .binary (.finite negative 0 BinaryFormat.double.leastExponent)
  else if 308 < exponent then .outOfRange
  else if exponent < -660 then .binary (.finite negative 0 BinaryFormat.double.leastExponent)
  else
    let steps : Int := if exponent < -308 then 308 else 0
    let (p, r) := rounded (10 ^ (exponent + steps).natAbs)
    let divide (m : Nat) (q : Int) (p : Nat) (r : Int) : Binary :=
      let pair := overPowerOfTwo m p (r - q)
      BinaryFormat.double.nearest negative pair.1 pair.2
    if 0 ≤ exponent then
      let pair := overPowerOfTwo (m * p) 1 (-(q + r))
      match BinaryFormat.double.nearest negative pair.1 pair.2 with
      | .infinite _ => .outOfRange
      | value => .binary value
    else if steps = 0 then .binary (divide m q p r)
    else
      let (s, t) := rounded (10 ^ 308)
      match divide m q s t with
      | .finite _ m' q' => .binary (divide m' q' p r)
      | value => .binary value

/-- The exponent of a number: the value after the mark and its sign. An
exponent that is far out of any range is cut off. -/
def exponentOf (negative : Bool) (digits : List Char) : Int :=
  let value := digits.foldl (fun n c => min (n * 10 + decimalValue c) 100000) 0
  if negative then -(value : Int) else value

/-- **A number without its sign**, and the text after it. A leading zero
stands alone; a point and an exponent each need a digit after them. -/
def unsignedNumber (negative : Bool) (cs : List Char) : Option (JsonNumber × List Char) := do
  let whole := cs.takeWhile Char.isDigit
  let afterWhole := cs.dropWhile Char.isDigit
  let leadingZero := whole.head? == some '0' && 1 < whole.length
  if whole.isEmpty || leadingZero then none
  let fraction? := match afterWhole with
    | '.' :: rest => some (rest.takeWhile Char.isDigit, rest.dropWhile Char.isDigit)
    | _ => none
  let afterFraction ← match fraction? with
    | some ([], _) => none
    | some (_, rest) => some rest
    | none => some afterWhole
  let isMark := match afterFraction with
    | c :: _ => c == 'e' || c == 'E'
    | [] => false
  let start : Significand :=
    whole.foldl (fun s c => s.pushWhole (decimalValue c)) ⟨0, 0, false⟩
  let s := (fraction?.elim [] (·.1)).foldl (fun s c => s.pushFraction (decimalValue c)) start
  if isMark then
    let (minus, digitsOn) := match afterFraction.drop 1 with
      | '-' :: rest => (true, rest)
      | '+' :: rest => (false, rest)
      | rest => (false, rest)
    let digits := digitsOn.takeWhile Char.isDigit
    if digits.isEmpty then none
    else
      some (binaryOfParts negative s.value (s.exponent + exponentOf minus digits),
        digitsOn.dropWhile Char.isDigit)
  else if fraction?.isSome || s.full then
    some (binaryOfParts negative s.value s.exponent, afterFraction)
  else if negative then
    if s.value = 0 ∨ 2 ^ 63 < s.value then
      some (binaryOfParts true s.value 0, afterFraction)
    else some (.whole (-(s.value : Int)), afterFraction)
  else some (.whole s.value, afterFraction)

/-! ## Tokens -/

/-- The first token of a text that starts with the given character, and
the text after it. -/
def token? (c : Char) (rest : List Char) : Option (Token × List Char) :=
  match c with
  | '[' => some (.openArray, rest)
  | ']' => some (.closeArray, rest)
  | '\x7b' => some (.openObject, rest)
  | '\x7d' => some (.closeObject, rest)
  | ',' => some (.comma, rest)
  | ':' => some (.colon, rest)
  | '"' => (stringBody (some []) rest).map fun (value, rest) => (.scalar value, rest)
  | '-' => (unsignedNumber true rest).map fun (n, rest) => (.scalar (.number n), rest)
  | 't' => (word ['r', 'u', 'e'] rest).map fun rest => (.scalar (.bool true), rest)
  | 'f' => (word ['a', 'l', 's', 'e'] rest).map fun rest => (.scalar (.bool false), rest)
  | 'n' => (word ['u', 'l', 'l'] rest).map fun rest => (.scalar .null, rest)
  | c =>
    if c.isDigit then
      (unsignedNumber false (c :: rest)).map fun (n, rest) => (.scalar (.number n), rest)
    else none
where
  /-- The text after the rest of a word. -/
  word (letters cs : List Char) : Option (List Char) :=
    if letters.isPrefixOf cs then some (cs.drop letters.length) else none

/-- **The tokens of a text.** The fuel bounds their number and is the
length of the text. -/
def tokensWithin : Nat → List Char → Option (List Token)
  | _, [] => some []
  | 0, _ :: _ => none
  | fuel + 1, c :: rest =>
    if isSpace c then tokensWithin fuel rest
    else do
      let (token, rest) ← token? c rest
      return token :: (← tokensWithin fuel rest)

/-! ## Putting tokens together -/

/-- An array or an object that is still open, with what it holds so far,
backwards. -/
inductive Frame where
  | items (done : List Json)
  | members (done : List (Option String × Json)) (name : Option String)

/-- What may come next. -/
inductive Stage where
  /-- A value. -/
  | value
  /-- A value or the end of the array that was just opened. -/
  | firstItem
  /-- A name or the end of the object that was just opened. -/
  | firstName
  /-- A name. -/
  | name (done : List (Option String × Json))
  /-- The colon after a name. -/
  | colon (done : List (Option String × Json)) (name : Option String)
  /-- What goes on after this value. -/
  | after (value : Json)

/-- A name, if the token is a string. -/
def Token.name? : Token → Option (Option String)
  | .scalar (.text s) => some (some s)
  | .scalar .brokenText => some none
  | _ => none

/-- **The value that a sequence of tokens spells out**, given what is open
and what may come next. -/
def assemble : List Frame → Stage → List Token → Option Json
  | [], .after value, [] => some value
  | stack, .value, .openArray :: rest => assemble stack .firstItem rest
  | stack, .value, .openObject :: rest => assemble stack .firstName rest
  | stack, .value, .scalar value :: rest => assemble stack (.after value) rest
  | stack, .firstItem, .closeArray :: rest => assemble stack (.after (.array [])) rest
  | stack, .firstItem, .openArray :: rest => assemble (.items [] :: stack) .firstItem rest
  | stack, .firstItem, .openObject :: rest => assemble (.items [] :: stack) .firstName rest
  | stack, .firstItem, .scalar value :: rest => assemble (.items [] :: stack) (.after value) rest
  | stack, .firstName, .closeObject :: rest => assemble stack (.after (.object [])) rest
  | stack, .firstName, token :: rest =>
    match token.name? with
    | some name => assemble stack (.colon [] name) rest
    | none => none
  | stack, .name done, token :: rest =>
    match token.name? with
    | some name => assemble stack (.colon done name) rest
    | none => none
  | stack, .colon done name, .colon :: rest => assemble (.members done name :: stack) .value rest
  | .items done :: stack, .after value, .comma :: rest =>
    assemble (.items (value :: done) :: stack) .value rest
  | .items done :: stack, .after value, .closeArray :: rest =>
    assemble stack (.after (.array (value :: done).reverse)) rest
  | .members done name :: stack, .after value, .comma :: rest =>
    assemble stack (.name ((name, value) :: done)) rest
  | .members done name :: stack, .after value, .closeObject :: rest =>
    assemble stack (.after (.object ((name, value) :: done).reverse)) rest
  | _, _, _ => none

/-- **Reading a text**: the one value it holds, blanks around it allowed. -/
def ofText? (s : String) : Option Json := do
  let cs := s.toList
  assemble [] .value (← tokensWithin cs.length cs)

end Json

end LedgerNet
