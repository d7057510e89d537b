import LedgerNet.Text.Numeral

/-!
# Sums

An expression of whole numbers, as it stands between two pairs of round
brackets. Its operators bind as in other languages; a comparison is one or
zero. An expression is read and computed at once, with the values that the
names have at that time.
-/

namespace LedgerNet.Shell

/-- A sign of an expression. -/
inductive Sign where
  | number (n : Int)
  | operator (text : String)
  deriving Repr

/-- The operators of two characters. -/
def longOperators : List String := ["<=", ">=", "==", "!=", "&&", "||", "<<", ">>"]

/-- A character of names and numbers. -/
def isSignChar (c : Char) : Bool := c.isAlphanum || c == '_'

/-- **Cuts an expression into signs**; a name stands for its value. -/
def signs (value : String → Int) (cs : List Char) : List Sign :=
  match cs with
  | [] => []
  | c :: rest =>
    if c.isWhitespace ∨ c = '$' then signs value rest
    else if isSignChar c then
      let text := c :: rest.takeWhile isSignChar
      have := (List.dropWhile_sublist (l := rest) isSignChar).length_le
      let sign := match text with
        | '0' :: 'x' :: digits => (((Text.digits? 16 digits).getD 0 : Nat) : Int)
        | '0' :: digits => (((Text.digits? 8 digits).getD 0 : Nat) : Int)
        | digits => match Text.digits? 10 digits with
          | some n => n
          | none => value (String.ofList digits)
      .number sign :: signs value (rest.dropWhile isSignChar)
    else
      let long := String.ofList (c :: rest.take 1)
      if longOperators.contains long then .operator long :: signs value (rest.drop 1)
      else .operator (String.singleton c) :: signs value rest
termination_by cs.length
decreasing_by
  all_goals simp only [List.length_cons, List.length_drop]
  all_goals omega

def truth (b : Bool) : Int := if b then 1 else 0

/-- How tightly an operator between two numbers binds, and what it
computes. -/
def binary? : String → Option (Nat × (Int → Int → Int))
  | "||" => some (1, fun a b => truth (a != 0 || b != 0))
  | "&&" => some (2, fun a b => truth (a != 0 && b != 0))
  | "==" => some (3, fun a b => truth (a == b))
  | "!=" => some (3, fun a b => truth (a != b))
  | "<" => some (4, fun a b => truth (a < b))
  | ">" => some (4, fun a b => truth (a > b))
  | "<=" => some (4, fun a b => truth (a ≤ b))
  | ">=" => some (4, fun a b => truth (a ≥ b))
  | "<<" => some (5, fun a b => a * 2 ^ b.toNat)
  | ">>" => some (5, fun a b => a / 2 ^ b.toNat)
  | "+" => some (6, (· + ·))
  | "-" => some (6, (· - ·))
  | "*" => some (7, (· * ·))
  | "/" => some (7, Int.tdiv)
  | "%" => some (7, Int.tmod)
  | _ => none

mutual

/-- A number, a number with a sign, or an expression in brackets. -/
def operand : Nat → List Sign → Int × List Sign
  | 0, signs => (0, signs)
  | fuel + 1, signs =>
    match signs with
    | .number n :: rest => (n, rest)
    | .operator "-" :: rest =>
      let (n, rest) := operand fuel rest
      (-n, rest)
    | .operator "+" :: rest => operand fuel rest
    | .operator "!" :: rest =>
      let (n, rest) := operand fuel rest
      (truth (n == 0), rest)
    | .operator "(" :: rest =>
      let (n, rest) := expression fuel 0 rest
      (n, rest.drop 1)
    | rest => (0, rest)

/-- An expression whose operators bind tighter than a level. -/
def expression : Nat → Nat → List Sign → Int × List Sign
  | 0, _, signs => (0, signs)
  | fuel + 1, level, signs =>
    let (first, rest) := operand fuel signs
    more fuel level first rest

/-- What follows a first operand. -/
def more : Nat → Nat → Int → List Sign → Int × List Sign
  | 0, _, first, signs => (first, signs)
  | fuel + 1, level, first, signs =>
    match signs with
    | .operator text :: rest =>
      match binary? text with
      | some (own, compute) =>
        if own ≤ level then (first, signs)
        else
          let (second, rest) := expression fuel own rest
          more fuel level (compute first second) rest
      | none => (first, signs)
    | _ => (first, signs)

end

/-- **The value of an expression.** -/
def compute (value : String → Int) (cs : List Char) : Int :=
  let signs := signs value cs
  (expression (3 * signs.length + 3) 0 signs).1

end LedgerNet.Shell
