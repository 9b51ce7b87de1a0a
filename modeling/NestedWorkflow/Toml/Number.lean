import NestedWorkflow.Decimal
import NestedWorkflow.Hash.Hex
import NestedWorkflow.Word

/-!
# Numbers in TOML

Integers in four bases and floats.  Integers have sixty-four bits with a sign.  Of a float only the
spelling matters, so its readers return the text behind it; one that would have to be rounded to
infinity is none.
-/

namespace NestedWorkflow.Toml

/-! ### Integers -/

/-- Digits of a base, with single underscores between them. -/
def digits? (isDigit : Char → Bool) : List Char → Option (List Char × List Char)
  | [] => none
  | c :: rest =>
    if isDigit c then
      match rest with
      | '_' :: rest => (digits? isDigit rest).map fun (ds, left) => (c :: ds, left)
      | rest =>
        match digits? isDigit rest with
        | some (ds, left) => some (c :: ds, left)
        | none =>
          match rest with
          | d :: _ => if isDigit d then none else some ([c], rest)
          | [] => some ([c], rest)
    else none

/-- Digits with no leading zero. -/
def wholeDigits? (cs : List Char) : Option (List Char × List Char) :=
  match digits? Decimal.isDigit cs with
  | some ('0' :: _ :: _, _) => none
  | other => other

/-- A sign, if there is one. -/
def sign : List Char → Bool × List Char
  | '-' :: rest => (true, rest)
  | '+' :: rest => (false, rest)
  | cs => (false, cs)

/-- The largest integer. -/
def maxInteger : Nat := Word.size63 - 1

/-- An integer in a base that is a power of two. -/
def based? (base : Nat) (cs : List Char) : Option (Int × List Char) :=
  let isDigit c :=
    match Hex.value? c with
    | some n => decide (n < base)
    | none => false
  match digits? isDigit cs with
  | none => none
  | some (ds, left) =>
    let n := ds.foldl (fun n c => base * n + (Hex.value? c).getD 0) 0
    if n ≤ maxInteger then some (n, left) else none

/-- A decimal integer. -/
def decimal? (cs : List Char) : Option (Int × List Char) :=
  let (negative, cs) := sign cs
  match wholeDigits? cs with
  | none => none
  | some (ds, left) =>
    let n := Decimal.value ds
    if negative then (if n ≤ maxInteger + 1 then some (-(n : Int), left) else none)
    else if n ≤ maxInteger then some (n, left) else none

/-- An integer in any base. -/
def integer? : List Char → Option (Int × List Char)
  | '0' :: 'x' :: rest => based? 16 rest
  | '0' :: 'o' :: rest => based? 8 rest
  | '0' :: 'b' :: rest => based? 2 rest
  | cs => decimal? cs

/-! ### Floats -/

/-- The exponent of a float: its sign and value. -/
def exponent? : List Char → Option ((Bool × Nat) × List Char)
  | c :: rest =>
    if c = 'e' ∨ c = 'E' then
      let (negative, rest) := sign rest
      (digits? Decimal.isDigit rest).map fun (ds, left) => ((negative, Decimal.value ds), left)
    else none
  | [] => none

/-- Digits behind a point. -/
def fraction? : List Char → Option (List Char × List Char)
  | '.' :: rest => digits? Decimal.isDigit rest
  | _ => none

/-- A decimal too large for a double, which would have to be rounded to infinity. -/
def isTooLarge (digits : List Char) (power : Int) : Bool :=
  let n := Decimal.value digits
  let size : Int := (Decimal.digits n).length + power
  if n = 0 ∨ size < 300 then false
  else if 400 < size then true
  else
    let bound := Nat.pow 2 1024 - Nat.pow 2 970
    if 0 ≤ power then decide (bound ≤ n * Nat.pow 10 power.natAbs)
    else decide (bound * Nat.pow 10 power.natAbs ≤ n)

/-- A float with a point or an exponent. -/
def decimalFloat? (cs : List Char) : Option (List Char) := do
  let (negative, cs) := sign cs
  let (whole, cs) ← wholeDigits? cs
  let (fraction, exponent, left) ←
    match exponent? cs with
    | some (e, left) => some ([], e, left)
    | none =>
      match fraction? cs with
      | none => none
      | some (ds, cs) =>
        match exponent? cs with
        | some (e, left) => some (ds, e, left)
        | none => some (ds, (false, 0), cs)
  let power : Int := (if exponent.1 then -(exponent.2 : Int) else exponent.2) - fraction.length
  if negative = false ∧ isTooLarge (whole ++ fraction) power then none else some left

/-- Infinity or no number. -/
def specialFloat? (cs : List Char) : Option (List Char) :=
  match (sign cs).2 with
  | 'i' :: 'n' :: 'f' :: rest => some rest
  | 'n' :: 'a' :: 'n' :: rest => some rest
  | _ => none

/-- The text behind a float. -/
def float? (cs : List Char) : Option (List Char) :=
  match decimalFloat? cs with
  | some left => some left
  | none => specialFloat? cs

end NestedWorkflow.Toml
