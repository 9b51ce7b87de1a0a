import NestedWorkflow.Decimal
import NestedWorkflow.Instant

/-!
# Instants as text

The form of RFC 3339.  Instants are written in UTC with as few groups of three fraction digits as
lose nothing.  The reader takes any offset from UTC, blanks before numbers and separators, numbers
without leading zeros, and fractions of any length, of which nine digits count.
-/

namespace NestedWorkflow.Rfc3339

/-! ### Writing -/

/-- A year: four digits, or a sign and at least four digits. -/
def renderYear (year : Int) : List Char :=
  if 0 ≤ year ∧ year ≤ 9999 then Decimal.padded 4 year.natAbs
  else (if 0 ≤ year then '+' else '-') :: Decimal.padded 4 year.natAbs

/-- The fraction of a second: none, or three, six or nine digits. -/
def renderFraction (nano : Nat) : List Char :=
  if nano = 0 then []
  else if nano % 1000000 = 0 then '.' :: Decimal.padded 3 (nano / 1000000)
  else if nano % 1000 = 0 then '.' :: Decimal.padded 6 (nano / 1000)
  else '.' :: Decimal.padded 9 nano

/-- An instant in UTC. -/
def render (i : Instant) : List Char :=
  renderYear i.date.year ++ '-' :: Decimal.padded 2 i.date.month ++
    '-' :: Decimal.padded 2 i.date.day ++ 'T' :: Decimal.padded 2 i.time.hour ++
    ':' :: Decimal.padded 2 i.time.minute ++ ':' :: Decimal.padded 2 i.time.second ++
    renderFraction i.time.nano ++ ['Z']

/-! ### Reading -/

/-- White space of Unicode. -/
def isSpace (c : Char) : Bool :=
  let n := c.toNat
  (9 ≤ n && n ≤ 13) || n == 0x20 || n == 0x85 || n == 0xa0 || n == 0x1680 ||
    (0x2000 ≤ n && n ≤ 0x200a) || n == 0x2028 || n == 0x2029 || n == 0x202f || n == 0x205f ||
    n == 0x3000

/-- The text without leading white space. -/
def trim (cs : List Char) : List Char := cs.dropWhile isSpace

/-- A number of at least one digit and at most `width` digits, after white space. -/
def number? (width : Nat) (cs : List Char) : Option (Nat × List Char) :=
  let cs := trim cs
  match (cs.take width).takeWhile Decimal.isDigit with
  | [] => none
  | ds => some (Decimal.value ds, cs.drop ds.length)

/-- A number of any number of digits, directly at the front. -/
def longNumber? (cs : List Char) : Option (Nat × List Char) :=
  match cs.takeWhile Decimal.isDigit with
  | [] => none
  | ds => some (Decimal.value ds, cs.dropWhile Decimal.isDigit)

/-- A year: up to four digits, or any number of digits behind a sign. -/
def year? (cs : List Char) : Option (Int × List Char) :=
  match trim cs with
  | '-' :: rest => (longNumber? rest).map fun (n, left) => (-(n : Int), left)
  | '+' :: rest => (longNumber? rest).map fun (n, left) => ((n : Int), left)
  | cs => (number? 4 cs).map fun (n, left) => ((n : Int), left)

/-- The separator at the front, after white space. -/
def separator? (c : Char) (cs : List Char) : Option (List Char) :=
  match trim cs with
  | d :: rest => if d = c then some rest else none
  | [] => none

/-- The fraction of a second in nanoseconds. -/
def fraction? : List Char → Option (Nat × List Char)
  | '.' :: rest =>
    match rest.takeWhile Decimal.isDigit with
    | [] => none
    | ds =>
      let counted := ds.take 9
      some (Decimal.value counted * Nat.pow 10 (9 - counted.length), rest.dropWhile Decimal.isDigit)
  | cs => some (0, cs)

/-- Two digits directly at the front. -/
def twoDigits? : List Char → Option (Nat × List Char)
  | c :: d :: rest =>
    if Decimal.isDigit c && Decimal.isDigit d then some (Decimal.value [c, d], rest) else none
  | _ => none

/-- The text behind a zone designator that means UTC itself. -/
def utc? : List Char → Option (List Char)
  | c :: rest =>
    if c = 'Z' ∨ c = 'z' then some rest
    else
      match rest with
      | d :: e :: rest =>
        if (c = 'U' ∨ c = 'u') ∧ (d = 'T' ∨ d = 't') ∧ (e = 'C' ∨ e = 'c') then some rest
        else none
      | _ => none
  | [] => none

/-- Hours and minutes ahead of UTC, behind their sign. -/
def hoursMinutes? (cs : List Char) : Option (Nat × List Char) := do
  let (hours, cs) ← twoDigits? cs
  let (minutes, cs) ← twoDigits? (cs.dropWhile fun c => c == ':' || isSpace c)
  if minutes < 60 ∧ hours < 24 then some (60 * hours + minutes, cs) else none

/-- Minutes ahead of UTC. -/
def offset? (cs : List Char) : Option (Int × List Char) :=
  match utc? cs with
  | some rest => some (0, rest)
  | none =>
    match cs with
    | '+' :: rest => (hoursMinutes? rest).map fun (n, left) => ((n : Int), left)
    | '-' :: rest => (hoursMinutes? rest).map fun (n, left) => (-(n : Int), left)
    | '\u2212' :: rest => (hoursMinutes? rest).map fun (n, left) => (-(n : Int), left)
    | _ => none

/-- A day. -/
def day? (cs : List Char) : Option (Day × List Char) := do
  let (year, cs) ← year? cs
  let cs ← separator? '-' cs
  let (month, cs) ← number? 2 cs
  let cs ← separator? '-' cs
  let (day, cs) ← number? 2 cs
  some (⟨year, month, day⟩, cs)

/-- The text behind what stands between day and time. -/
def between? : List Char → Option (List Char)
  | c :: rest => if c = 'T' ∨ c = 't' ∨ c = ' ' then some rest else none
  | [] => none

/-- A time of day, and the text behind the white space after it. -/
def time? (cs : List Char) : Option (TimeOfDay × List Char) := do
  let (hour, cs) ← number? 2 cs
  let cs ← separator? ':' cs
  let (minute, cs) ← number? 2 cs
  let cs ← separator? ':' cs
  let (second, cs) ← number? 2 cs
  let (nano, cs) ← fraction? cs
  some (⟨hour, minute, second, nano⟩, trim cs)

/-- An instant, with nothing but white space behind it. -/
def read? (cs : List Char) : Option Instant := do
  let (date, cs) ← day? cs
  let cs ← between? cs
  let (time, cs) ← time? cs
  let (offset, cs) ← offset? cs
  if trim cs = [] ∧ time.Valid then Instant.ofLocal? date time offset else none

end NestedWorkflow.Rfc3339
