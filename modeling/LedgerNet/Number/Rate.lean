import LedgerNet.Number.Binary
import LedgerNet.Number.Decimal

/-!
# Fee rates

A delegation fee rate is a number of 32 bits. It is only ever read and
shown: as text in the settings of a staking run, and as text again in the
request that registers a validator.
-/

namespace LedgerNet

/-- **A delegation fee rate**, in percent. -/
structure Rate where
  value : Binary
  deriving DecidableEq, Repr

namespace Rate

/-- The words for numbers that are not finite, in any mixture of cases. -/
def ofWord? (negative : Bool) (cs : List Char) : Option Binary :=
  match String.ofList (cs.map Char.toLower) with
  | "inf" => some (.infinite negative)
  | "infinity" => some (.infinite negative)
  | "nan" => some .notANumber
  | _ => none

/-- A rate without its sign. -/
def ofUnsigned? (negative : Bool) (cs : List Char) : Option Binary :=
  (ofWord? negative cs).orElse fun _ =>
    (decimal? cs).map fun (digits, exponent) =>
      BinaryFormat.single.ofDecimal negative digits exponent

/-- **Reading a rate**: an optional sign, then a decimal number or one of
the words for infinity and for no number. -/
def ofText? (s : String) : Option Rate :=
  Rate.mk <$> match s.toList with
    | '-' :: rest => ofUnsigned? true rest
    | '+' :: rest => ofUnsigned? false rest
    | cs => ofUnsigned? false cs

/-- **The text of a rate**: the fewest digits that read back, never with an
exponent. Zero keeps its sign. -/
def text (r : Rate) : String :=
  match r.value with
  | .notANumber => "NaN"
  | .infinite negative => if negative then "-inf" else "inf"
  | .finite negative significand exponent =>
    let sign := if negative then "-" else ""
    if significand = 0 then sign ++ "0"
    else sign ++ (BinaryFormat.single.shortest significand exponent).positional

/-- Two percent, the rate that staking runs ask for. -/
def two : Rate := ⟨.finite false (2 ^ 23) (-22)⟩

end Rate

end LedgerNet
