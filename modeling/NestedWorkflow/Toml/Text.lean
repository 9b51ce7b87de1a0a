import NestedWorkflow.Hash.Hex

/-!
# Text in TOML

What lines are made of, and strings in their four spellings: in double quotes with escapes, in
single quotes without, and both over several lines.  Every reader takes a text and returns what it
read and the text behind it.
-/

namespace NestedWorkflow.Toml

/-! ### Characters -/

/-- Blanks within a line. -/
def isBlank (c : Char) : Bool := c == ' ' || c == '\t'

/-- The text without leading blanks. -/
def skipBlanks (cs : List Char) : List Char := cs.dropWhile isBlank

/-- Characters that may stand for themselves: no control characters but the tab. -/
def isPlain (c : Char) : Bool := c == '\t' || (0x20 ≤ c.toNat && c.toNat != 0x7f)

/-- The text behind the end of a line. -/
def newline? : List Char → Option (List Char)
  | '\n' :: rest => some rest
  | '\r' :: '\n' :: rest => some rest
  | _ => none

/-- The text without leading blanks and ends of lines. -/
def skipLines : List Char → List Char
  | [] => []
  | '\n' :: rest => skipLines rest
  | '\r' :: '\n' :: rest => skipLines rest
  | c :: rest => if isBlank c then skipLines rest else c :: rest

/-! ### Strings -/

/-- The value of hexadecimal digits. -/
def hexValue? (cs : List Char) : Option Nat :=
  cs.foldl (fun n c => do return 16 * (← n) + (← Hex.value? c)) (some 0)

/-- The character that hexadecimal digits number. -/
def character? (digits : List Char) : Option Char :=
  match hexValue? digits with
  | some n => if n.isValidChar then some (Char.ofNat n) else none
  | none => none

/-- The character of a short escape. -/
def shortEscape? (c : Char) : Option Char :=
  if c = '"' ∨ c = '\\' then some c
  else if c = 'b' then some '\x08'
  else if c = 't' then some '\t'
  else if c = 'n' then some '\n'
  else if c = 'f' then some '\x0c'
  else if c = 'r' then some '\r'
  else none

/-- The character of an escape whose backslash has been read. -/
def escape? : List Char → Option (Char × List Char)
  | [] => none
  | c :: rest =>
    if c = 'u' ∨ c = 'U' then
      let width := if c = 'u' then 4 else 8
      let digits := rest.take width
      if digits.length = width then (character? digits).map fun e => (e, rest.drop width)
      else none
    else (shortEscape? c).map fun e => (e, rest)

/-- The rest of a string in double quotes.  Fuel counts characters. -/
def basic? : Nat → List Char → Option (List Char × List Char)
  | 0, _ => none
  | _ + 1, [] => none
  | fuel + 1, c :: rest =>
    if c = '"' then some ([], rest)
    else if c = '\\' then do
      let (e, rest) ← escape? rest
      let (s, left) ← basic? fuel rest
      return (e :: s, left)
    else if isPlain c then do
      let (s, left) ← basic? fuel rest
      return (c :: s, left)
    else none

/-- The rest of a string in single quotes, where nothing is escaped. -/
def literal? : List Char → Option (List Char × List Char)
  | [] => none
  | c :: rest =>
    if c = '\'' then some ([], rest)
    else if isPlain c then (literal? rest).map fun (s, left) => (c :: s, left)
    else none

/-- At quotes inside a string of several lines: three end it, after up to two that belong to it. -/
def closing? (quote : Char) (cs : List Char) : Option (List Char × List Char) :=
  let run := cs.takeWhile (· == quote)
  if 3 ≤ run.length ∧ run.length ≤ 5 then
    some (List.replicate (run.length - 3) quote, cs.drop run.length)
  else none

/-- The rest of a string of several lines.  Only double quotes allow escapes; there, a backslash at
the end of a line drops everything up to the next text. -/
def lines? (quote : Char) : Nat → List Char → Option (List Char × List Char)
  | 0, _ => none
  | _ + 1, [] => none
  | fuel + 1, c :: rest =>
    if c = quote then
      match closing? quote (c :: rest) with
      | some ended => some ended
      | none =>
        if ((c :: rest).takeWhile (· == quote)).length ≤ 2 then do
          let (s, left) ← lines? quote fuel rest
          return (c :: s, left)
        else none
    else if c = '\\' ∧ quote = '"' then
      match newline? (skipBlanks rest) with
      | some next => lines? quote fuel (skipLines next)
      | none => do
        let (e, rest) ← escape? rest
        let (s, left) ← lines? quote fuel rest
        return (e :: s, left)
    else
      match newline? (c :: rest) with
      | some next => do
        let (s, left) ← lines? quote fuel next
        return ('\n' :: s, left)
      | none =>
        if isPlain c then do
          let (s, left) ← lines? quote fuel rest
          return (c :: s, left)
        else none

/-- A string of several lines behind its opening quotes; an end of line right there is no part of
it. -/
def block? (quote : Char) (cs : List Char) : Option (List Char × List Char) :=
  let cs := (newline? cs).getD cs
  lines? quote (cs.length + 1) cs

/-- A string in any spelling. -/
def string? : List Char → Option (List Char × List Char)
  | '"' :: '"' :: '"' :: rest => block? '"' rest
  | '\'' :: '\'' :: '\'' :: rest => block? '\'' rest
  | '"' :: rest => basic? (rest.length + 1) rest
  | '\'' :: rest => literal? rest
  | _ => none

end NestedWorkflow.Toml
