import LedgerNet.Text.Numeral
import LedgerNet.Text.Utf8

/-!
# Formats

What the two utilities that print a text make of it. Both read escapes: a
letter after a backslash stands for a control character, and up to three
octal digits for a byte. One of them also fills in its arguments, as often
as there are arguments left.
-/

namespace LedgerNet.Shell

/-- Up to a number of octal digits: the value they have, and the rest. -/
def octal : Nat → Nat → List Char → Nat × List Char
  | left + 1, value, c :: rest =>
    if '0' ≤ c ∧ c ≤ '7' then octal left (value * 8 + (c.toNat - '0'.toNat)) rest
    else (value, c :: rest)
  | _, value, cs => (value, cs)

theorem length_octal_le (left value : Nat) (cs : List Char) :
    (octal left value cs).2.length ≤ cs.length := by
  fun_induction octal left value cs with
  | case1 => simp_all; omega
  | case2 => simp
  | case3 => simp

/-- The letters after a backslash that stand for one byte. -/
def control? : Char → Option UInt8
  | 'a' => some 7 | 'b' => some 8 | 'f' => some 12 | 'n' => some 10 | 'r' => some 13
  | 't' => some 9 | 'v' => some 11 | '\\' => some 92 | _ => none

def bytesOf (cs : List Char) : List UInt8 := Text.utf8Bytes (String.ofList cs)

/-- **A text with its escapes spelled out.** Here a byte may have a zero
before its three digits, and one escape ends the text; the second component
says whether it did. -/
def spelled (cs : List Char) : List UInt8 × Bool :=
  match cs with
  | [] => ([], false)
  | '\\' :: 'c' :: _ => ([], true)
  | '\\' :: '0' :: rest =>
    have := length_octal_le 3 0 rest
    let (bytes, ended) := spelled (octal 3 0 rest).2
    (UInt8.ofNat (octal 3 0 rest).1 :: bytes, ended)
  | '\\' :: c :: rest =>
    match control? c with
    | some byte =>
      let (bytes, ended) := spelled rest
      (byte :: bytes, ended)
    | none =>
      if '1' ≤ c ∧ c ≤ '7' then
        have := length_octal_le 2 (c.toNat - '0'.toNat) rest
        let digits := octal 2 (c.toNat - '0'.toNat) rest
        let (bytes, ended) := spelled (octal 2 (c.toNat - '0'.toNat) rest).2
        (UInt8.ofNat digits.1 :: bytes, ended)
      else
        let (bytes, ended) := spelled rest
        (bytesOf ['\\', c] ++ bytes, ended)
  | c :: rest =>
    let (bytes, ended) := spelled rest
    (bytesOf [c] ++ bytes, ended)
termination_by cs.length
decreasing_by all_goals simp only [List.length_cons]; omega

/-! ## Fields -/

/-- **How an argument is filled in**: at which side, with zeros or blanks, to
which width, and how much of it. -/
structure Field where
  left : Bool
  zeros : Bool
  width : Nat
  precision : Option Nat
  kind : Char

/-- Reads the field after a percent sign. -/
def Field.read (cs : List Char) : Field × List Char :=
  let flags := cs.takeWhile ("-0+ #".toList.contains ·)
  let cs := cs.drop flags.length
  let width := cs.takeWhile Char.isDigit
  let cs := cs.drop width.length
  let dot := cs.head? = some '.'
  let cs := if dot then cs.drop 1 else cs
  let precision := if dot then cs.takeWhile Char.isDigit else []
  let cs := cs.drop precision.length
  (⟨flags.contains '-', flags.contains '0', (Text.digits? 10 width).getD 0,
    if dot then some ((Text.digits? 10 precision).getD 0) else none, cs.headD 's'⟩, cs.drop 1)

theorem Field.length_read_le (cs : List Char) : (Field.read cs).2.length ≤ cs.length := by
  simp only [Field.read]
  split <;> simp only [List.length_drop] <;> omega

/-- A text at one side of a field. -/
def Field.pad (field : Field) (cs : List Char) : List Char :=
  let room := field.width - cs.length
  if field.left then cs ++ List.replicate room ' '
  else if field.zeros ∧ field.kind ≠ 's' then
    match cs with
    | '-' :: digits => '-' :: (List.replicate room '0' ++ digits)
    | digits => List.replicate room '0' ++ digits
  else List.replicate room ' ' ++ cs

/-- **An argument in its field**; a text that is no number counts as zero
where a number is wanted. -/
def Field.fill (field : Field) (argument : String) : List UInt8 :=
  let number : Int := match argument.toList with
    | '-' :: digits => -((Text.digits? 10 digits).getD 0 : Nat)
    | digits => ((Text.digits? 10 (Text.dropPlus digits)).getD 0 : Nat)
  let base (n : Nat) : List Char := Nat.toDigits n number.toNat
  let text := match field.kind with
    | 'b' => (Text.decodeUtf8Lossy (spelled argument.toList).1).toList
    | 'd' | 'i' | 'u' => (toString number).toList
    | 'x' => base 16
    | 'X' => (base 16).map Char.toUpper
    | 'o' => base 8
    | 'c' => argument.toList.take 1
    | _ => match field.precision with
      | some n => argument.toList.take n
      | none => argument.toList
  bytesOf (field.pad text)

/-! ## Formats -/

/-- **A format filled in once**: the bytes, and the arguments that are
left. -/
def format (cs : List Char) (arguments : List String) : List UInt8 × List String :=
  match cs with
  | [] => ([], arguments)
  | '%' :: '%' :: rest =>
    let (bytes, left) := format rest arguments
    (37 :: bytes, left)
  | '%' :: rest =>
    have := Field.length_read_le rest
    let (bytes, left) := format (Field.read rest).2 (arguments.drop 1)
    ((Field.read rest).1.fill (arguments.headD "") ++ bytes, left)
  | '\\' :: c :: rest =>
    match control? c with
    | some byte =>
      let (bytes, left) := format rest arguments
      (byte :: bytes, left)
    | none =>
      if '0' ≤ c ∧ c ≤ '7' then
        have := length_octal_le 2 (c.toNat - '0'.toNat) rest
        let digits := octal 2 (c.toNat - '0'.toNat) rest
        let (bytes, left) := format (octal 2 (c.toNat - '0'.toNat) rest).2 arguments
        (UInt8.ofNat digits.1 :: bytes, left)
      else
        let (bytes, left) := format rest arguments
        (bytesOf ['\\', c] ++ bytes, left)
  | c :: rest =>
    let (bytes, left) := format rest arguments
    (bytesOf [c] ++ bytes, left)
termination_by cs.length
decreasing_by all_goals simp only [List.length_cons]; omega

/-- **A format filled in** as often as there are arguments left for it. -/
def formatAll (cs : List Char) (arguments : List String) : List UInt8 :=
  go arguments.length arguments
where
  /-- The first argument says how many more rounds there can be. -/
  go : Nat → List String → List UInt8
    | rounds, arguments =>
      let (bytes, left) := format cs arguments
      match rounds with
      | 0 => bytes
      | rounds + 1 =>
        if left.isEmpty ∨ left.length = arguments.length then bytes else bytes ++ go rounds left

/-- What the simpler utility prints: its words on a line. -/
def echoed : List String → List UInt8
  | "-n" :: words => (spelled (String.intercalate " " words).toList).1
  | words =>
    let (bytes, ended) := spelled (String.intercalate " " words).toList
    if ended then bytes else bytes ++ [10]

end LedgerNet.Shell
