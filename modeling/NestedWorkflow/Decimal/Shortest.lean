import NestedWorkflow.Decimal
import NestedWorkflow.Word

/-!
# Shortest decimals of doubles

The fewest digits that read back as a given double, and of those the digits nearest to it.  The
reals that round to a double form an interval around it; decimals with a given number of digits form
a grid, and the first grid with a point in the interval gives the digits.  All arithmetic is on
natural numbers.
-/

namespace NestedWorkflow.Decimal.Shortest

/-- The interval of reals that round to a double: its ends and the double itself, all over one
denominator, and whether the ends belong to it. -/
structure Interval where
  low : Nat
  middle : Nat
  high : Nat
  denominator : Nat
  closed : Bool

/-- The interval of a positive finite double of the given significand and exponent bits. -/
def interval (fraction exponent : Nat) : Interval :=
  let m := if exponent = 0 then fraction else Nat.pow 2 52 + fraction
  let q : Int := (if exponent = 0 then 1 else exponent) - 1075
  let below := if fraction = 0 ∧ 1 < exponent then 1 else 2
  let scale := if 0 ≤ q then Nat.pow 2 q.natAbs else 1
  ⟨(4 * m - below) * scale, 4 * m * scale, (4 * m + 2) * scale,
    4 * (if 0 ≤ q then 1 else Nat.pow 2 q.natAbs), m % 2 = 0⟩

/-- A number times a power of ten, over a denominator times another one. -/
def holds (i : Interval) (n : Nat) (power : Int) : Bool :=
  let n := if 0 ≤ power then n * Nat.pow 10 power.natAbs * i.denominator else n * i.denominator
  let unit := if 0 ≤ power then 1 else Nat.pow 10 power.natAbs
  if i.closed then decide (i.low * unit ≤ n ∧ n ≤ i.high * unit)
  else decide (i.low * unit < n ∧ n < i.high * unit)

/-- The point of the grid of a power of ten nearest to the middle, if one is in the interval. -/
def nearest? (i : Interval) (power : Int) : Option Nat :=
  let num := if 0 ≤ power then i.middle else i.middle * Nat.pow 10 power.natAbs
  let den := if 0 ≤ power then i.denominator * Nat.pow 10 power.natAbs else i.denominator
  let n := num / den
  let r := 2 * (num % den)
  let (first, second) :=
    if r < den ∨ (r = den ∧ n % 2 = 0) then (n, n + 1) else (n + 1, n)
  if holds i first power then some first
  else if holds i second power then some second
  else none

/-- The first of a number of ever finer grids with a point in the interval: its digits and the power
of ten behind them. -/
def search (i : Interval) : Nat → Int → Nat × Int
  | 0, power => (i.middle, power)
  | steps + 1, power =>
    match nearest? i power with
    | some n => (n, power)
    | none => search i steps (power - 1)

/-- A number without its trailing zeros, and how many they are. -/
def stripZeros : Nat → Nat → Nat × Nat
  | 0, n => (n, 0)
  | fuel + 1, n =>
    if n ≠ 0 ∧ n % 10 = 0 then
      let (m, zeros) := stripZeros fuel (n / 10)
      (m, zeros + 1)
    else (n, 0)

/-- The shortest digits of a positive finite double, and the power of ten behind them. -/
def decompose (fraction exponent : Nat) : Nat × Int :=
  let i := interval fraction exponent
  let (n, power) := search i 700 309
  let (n, zeros) := stripZeros 400 n
  (n, power + zeros)

/-- The text of digits and a power of ten: positional from `10 ^ (-5)` to `10 ^ 16`, with a point
always, otherwise one digit in front of the point and an exponent with its sign. -/
def spell (n : Nat) (power : Int) : List Char :=
  let ds := digits n
  let point : Int := ds.length + power
  if 0 ≤ power ∧ point ≤ 16 then ds ++ List.replicate power.natAbs '0' ++ ['.', '0']
  else if 0 < point ∧ point ≤ 16 then ds.take point.natAbs ++ '.' :: ds.drop point.natAbs
  else if -5 < point ∧ point ≤ 0 then '0' :: '.' :: List.replicate point.natAbs '0' ++ ds
  else
    let e := point - 1
    ds.take 1 ++ (if ds.length = 1 then [] else '.' :: ds.drop 1) ++
      'e' :: (if e < 0 then '-' else '+') :: digits e.natAbs

/-- The text of a finite double. -/
def render (bits : UInt64) : List Char :=
  let n := bits.toNat
  let fraction := n % Nat.pow 2 52
  let exponent := n / Nat.pow 2 52 % Nat.pow 2 11
  let (d, power) :=
    if fraction = 0 ∧ exponent = 0 then (0, 0) else decompose fraction exponent
  (if Word.size63 ≤ n then ['-'] else []) ++ spell d power

end NestedWorkflow.Decimal.Shortest
