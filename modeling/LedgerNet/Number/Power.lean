/-!
# Powers

A bound such as `2 ^ 64` is a power of whole numbers, and it is the one that
the language computes. A theory in which numbers form a monoid has powers of
its own, which are equal to these and yet other terms. Here the former are
put first, so that a bound is the same term wherever it is written.
-/

namespace LedgerNet

/-- **Powers** are the ones that the language computes. -/
@[default_instance 20000]
instance (priority := 1100) computedPow {α : Type} [NatPow α] : Pow α Nat := instPowNat

end LedgerNet
