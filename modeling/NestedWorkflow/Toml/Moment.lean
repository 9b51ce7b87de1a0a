import NestedWorkflow.Decimal
import NestedWorkflow.Instant

/-!
# Dates and times in TOML

A date, a time of day, or both with or without an offset from UTC.  Only the spelling matters: the
readers return the text behind what they read, if it is in the calendar.
-/

namespace NestedWorkflow.Toml

/-- A number of exactly `width` digits. -/
def fixedNumber? (width : Nat) (cs : List Char) : Option (Nat × List Char) :=
  let ds := cs.take width
  if ds.length = width ∧ ds.all Decimal.isDigit then some (Decimal.value ds, cs.drop width)
  else none

/-- The text behind a character. -/
def expect? (c : Char) : List Char → Option (List Char)
  | d :: rest => if d = c then some rest else none
  | [] => none

/-- The text behind a day of the calendar. -/
def day? (cs : List Char) : Option (List Char) := do
  let (year, cs) ← fixedNumber? 4 cs
  let cs ← expect? '-' cs
  let (month, cs) ← fixedNumber? 2 cs
  let cs ← expect? '-' cs
  let (day, cs) ← fixedNumber? 2 cs
  if Day.Valid ⟨year, month, day⟩ then some cs else none

/-- The text behind a time of day. -/
def time? (cs : List Char) : Option (List Char) := do
  let (hour, cs) ← fixedNumber? 2 cs
  let cs ← expect? ':' cs
  let (minute, cs) ← fixedNumber? 2 cs
  let cs ← expect? ':' cs
  let (second, cs) ← fixedNumber? 2 cs
  let cs ←
    match cs with
    | '.' :: rest =>
      match rest.takeWhile Decimal.isDigit with
      | [] => none
      | _ => some (rest.dropWhile Decimal.isDigit)
    | cs => some cs
  if TimeOfDay.Valid ⟨hour, minute, second, 0⟩ then some cs else none

/-- The text behind an offset from UTC; none is needed. -/
def offset? (cs : List Char) : Option (List Char) :=
  match cs with
  | [] => some []
  | c :: rest =>
    if c = 'Z' ∨ c = 'z' then some rest
    else if c = '+' ∨ c = '-' then do
      let (hour, rest) ← fixedNumber? 2 rest
      let rest ← expect? ':' rest
      let (minute, rest) ← fixedNumber? 2 rest
      if hour < 24 ∧ minute < 60 then some rest else none
    else some (c :: rest)

/-- A date starts here: four digits and a dash. -/
def startsDate (cs : List Char) : Bool :=
  match fixedNumber? 4 cs with
  | some (_, '-' :: _) => true
  | _ => false

/-- A time of day starts here: two digits and a colon. -/
def startsTime (cs : List Char) : Bool :=
  match fixedNumber? 2 cs with
  | some (_, ':' :: _) => true
  | _ => false

/-- The text behind a date, which a time may follow, or a time. -/
def datetime? (cs : List Char) : Option (List Char) :=
  if startsDate cs then
    match day? cs with
    | none => none
    | some cs =>
      match cs with
      | c :: rest =>
        if (c = 'T' ∨ c = 't' ∨ c = ' ') ∧ startsTime rest then (time? rest).bind offset?
        else some cs
      | [] => some []
  else time? cs

end NestedWorkflow.Toml
