import NestedWorkflow.Decimal
import NestedWorkflow.Word

/-!
# Decimal numerals as doubles

A numeral is taken in as a significand of at most sixty-four bits and a power of ten, and the two
are combined in double arithmetic.  Digits in front of the point that the significand cannot hold
count as powers of ten, those behind it are dropped.  A result too large for a double is no result;
one too small is zero.
-/

namespace NestedWorkflow.Decimal

/-- The largest significand. -/
def maxSignificand : Nat := Word.size64 - 1

/-- The largest exponent that is read digit by digit. -/
def maxExponent : Nat := Word.size31 - 1

/-- The significand of the digits in front of the point, and how many of them it leaves out. -/
def wholePart (significand : Nat) : List Char → Nat × Nat
  | [] => (significand, 0)
  | c :: cs =>
    let next := 10 * significand + digitValue c
    if next ≤ maxSignificand then wholePart next cs else (significand, cs.length + 1)

/-- The significand continued behind the point, and how many digits it took in. -/
def fractionPart (significand taken : Nat) : List Char → Nat × Nat
  | [] => (significand, taken)
  | c :: cs =>
    let next := 10 * significand + digitValue c
    if next ≤ maxSignificand then fractionPart next (taken + 1) cs else (significand, taken)

/-- A power of ten that a double can hold. -/
def powerOfTen (n : Nat) : Float := Float.ofScientific 1 false n

/-- A double times a power of ten, dividing in steps of `10 ^ 308` where the power is too small. -/
def scale : Nat → Float → Int → Option Float
  | 0, _, _ => some 0.0
  | steps + 1, f, e =>
    if e.natAbs ≤ 308 then
      if 0 ≤ e then
        let g := f * powerOfTen e.natAbs
        if g.isInf then none else some g
      else some (f / powerOfTen e.natAbs)
    else if f == 0.0 then some f
    else if 0 ≤ e then none
    else scale steps (f / powerOfTen 308) (e + 308)

/-- The bits of a double, with the sign put in front. -/
def signedBits (negative : Bool) (f : Float) : UInt64 :=
  if negative then f.toBits ^^^ 0x8000000000000000 else f.toBits

/-- The bits of the double that a numeral denotes: a sign, digits, digits behind the point, and an
exponent with its sign. -/
def doubleBits? (negative : Bool) (whole fraction : List Char) (exponentNegative : Bool)
    (exponent : List Char) : Option UInt64 :=
  let (s, dropped) := wholePart 0 whole
  let (s, taken) := fractionPart s 0 fraction
  let e := value exponent
  if maxExponent < e then
    if s ≠ 0 ∧ exponentNegative = false then none else some (signedBits negative 0.0)
  else
    let power : Int := dropped - taken + (if exponentNegative then -(e : Int) else e)
    (scale 4 (UInt64.ofNat s).toFloat power).map (signedBits negative)

end NestedWorkflow.Decimal
