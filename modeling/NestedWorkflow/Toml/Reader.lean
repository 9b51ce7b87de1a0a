import NestedWorkflow.Toml.Item
import NestedWorkflow.Toml.Moment
import NestedWorkflow.Toml.Number
import NestedWorkflow.Toml.Text

/-!
# Reading TOML documents

A document is a sequence of lines: keys with values, and headers that say which table the following
keys belong to.  Values may nest; the reader of a value takes the number of levels that are still
allowed, and recursion is on that number.
-/

namespace NestedWorkflow.Toml

/-- Levels of arrays, inline tables and dotted keys that may nest. -/
def maxNesting : Nat := 79

/-! ### Keys -/

/-- Characters of keys without quotes. -/
def isBare (c : Char) : Bool := c.isAlphanum || c == '_' || c == '-'

/-- One step of a key. -/
def step? : List Char → Option (List Char × List Char)
  | '"' :: rest => basic? (rest.length + 1) rest
  | '\'' :: rest => literal? rest
  | cs =>
    match cs.takeWhile isBare with
    | [] => none
    | ds => some (ds, cs.dropWhile isBare)

/-- The steps of a key, with dots and blanks between them.  Fuel counts steps. -/
def steps? : Nat → List Char → Option (List String × List Char)
  | 0, _ => none
  | fuel + 1, cs => do
    let (s, rest) ← step? (skipBlanks cs)
    match skipBlanks rest with
    | '.' :: rest =>
      let (more, left) ← steps? fuel rest
      return (String.ofList s :: more, left)
    | left => return ([String.ofList s], left)

/-- A key: the steps down to it and the last step. -/
def key? (cs : List Char) : Option ((List String × String) × List Char) := do
  let (steps, left) ← steps? (cs.length + 1) cs
  if maxNesting < steps.length then none
  else
    match steps.getLast? with
    | none => none
    | some last => return ((steps.dropLast, last), left)

/-! ### Values -/

/-- The text behind a comment, up to the end of its line. -/
def skipComment? : List Char → Option (List Char)
  | '#' :: rest =>
    let left := rest.dropWhile isPlain
    if left = [] ∨ (newline? left).isSome then some left else none
  | cs => some cs

/-- The text without leading blanks, ends of lines and comments.  Fuel counts comments. -/
def skipGap? : Nat → List Char → Option (List Char)
  | 0, _ => none
  | fuel + 1, cs =>
    match skipLines cs with
    | '#' :: rest => (skipComment? ('#' :: rest)).bind (skipGap? fuel)
    | left => some left

/-- The text without a leading gap. -/
def gap? (cs : List Char) : Option (List Char) := skipGap? (cs.length + 1) cs

/-- The items of an array up to its closing bracket, with gaps around them.  Fuel counts items. -/
def items? (value : List Char → Option (Item × List Char)) :
    Nat → List Char → Option (List Item × List Char)
  | 0, _ => none
  | fuel + 1, cs => do
    match ← gap? cs with
    | ']' :: left => return ([], left)
    | cs =>
      let (v, rest) ← value cs
      match ← gap? rest with
      | ',' :: rest =>
        let (vs, left) ← items? value fuel rest
        return (v :: vs, left)
      | ']' :: left => return ([v], left)
      | _ => none

/-- A key with its value: the steps down to the key, the key, and what stands under it. -/
structure Pair where
  steps : List String
  key : String
  item : Item

/-- Add a key to a table. -/
def Table.addPair? (t : Table) (p : Pair) : Option Table := t.addDotted? p.key p.item p.steps

/-- A key and its value. -/
def pair? (value : List Char → Option (Item × List Char)) (cs : List Char) :
    Option (Pair × List Char) := do
  let ((steps, last), rest) ← key? cs
  let rest ← expect? '=' rest
  let (v, left) ← value (skipBlanks rest)
  return (⟨steps, last, v⟩, left)

/-- The entries of an inline table up to its closing brace.  Fuel counts entries. -/
def pairs? (value : List Char → Option (Item × List Char)) :
    Nat → Table → List Char → Option (Table × List Char)
  | 0, _, _ => none
  | fuel + 1, t, cs => do
    let (p, rest) ← pair? value cs
    let t ← t.addPair? p
    match skipBlanks rest with
    | ',' :: rest => pairs? value fuel t rest
    | '\x7d' :: left => return (t, left)
    | _ => none

/-- A number, or a date or time, by how it starts. -/
def number? (cs : List Char) : Option (Item × List Char) :=
  let spelled (left : List Char) : String := String.ofList (cs.take (cs.length - left.length))
  if startsDate cs ∨ startsTime cs then
    (datetime? cs).map fun left => (.datetime (spelled left), left)
  else
    match float? cs with
    | some left => some (.float (spelled left), left)
    | none => (integer? cs).map fun (i, left) => (.integer i, left)

/-- A value.  Each array and inline table takes one level. -/
def value? : Nat → List Char → Option (Item × List Char)
  | nesting, cs =>
    match cs with
    | '"' :: _ => (string? cs).map fun (s, left) => (.string (String.ofList s), left)
    | '\'' :: _ => (string? cs).map fun (s, left) => (.string (String.ofList s), left)
    | 't' :: 'r' :: 'u' :: 'e' :: left => some (.boolean true, left)
    | 'f' :: 'a' :: 'l' :: 's' :: 'e' :: left => some (.boolean false, left)
    | '[' :: rest =>
      match nesting with
      | 0 => none
      | n + 1 => (items? (value? n) (rest.length + 1) rest).map fun (vs, left) => (.array vs, left)
    | '\x7b' :: rest =>
      match nesting with
      | 0 => none
      | n + 1 =>
        match skipBlanks rest with
        | '\x7d' :: left => some (.table .inline [], left)
        | rest =>
          (pairs? (value? n) (rest.length + 1) [] rest).map fun (t, left) =>
            (.table .inline t, left)
    | cs => number? cs

/-! ### Lines -/

/-- The text behind the end of a line, where only blanks and a comment may stand. -/
def endLine? (cs : List Char) : Option (List Char) :=
  match skipComment? (skipBlanks cs) with
  | none => none
  | some [] => some []
  | some left => newline? left

/-- A header: the steps down to a table and its key.  It may open one of several tables. -/
structure Header where
  repeated : Bool
  steps : List String
  key : String

/-- A line that says something. -/
inductive Line
  | pair (p : Pair)
  | header (h : Header)

/-- A header in its brackets. -/
def header? (cs : List Char) : Option (Header × List Char) :=
  match cs with
  | '[' :: '[' :: rest => do
    let ((steps, last), rest) ← key? rest
    let rest ← expect? ']' rest
    let rest ← expect? ']' rest
    return (⟨true, steps, last⟩, rest)
  | '[' :: rest => do
    let ((steps, last), rest) ← key? rest
    let rest ← expect? ']' rest
    return (⟨false, steps, last⟩, rest)
  | _ => none

/-- The lines of a document.  Fuel counts lines. -/
def lines : Nat → List Char → Option (List Line)
  | 0, _ => none
  | fuel + 1, cs =>
    match skipBlanks cs with
    | [] => some []
    | c :: rest =>
      if c = '#' ∨ c = '\n' ∨ c = '\r' then (endLine? (c :: rest)).bind (lines fuel)
      else if c = '[' then do
        let (h, rest) ← header? (c :: rest)
        let rest ← endLine? rest
        let more ← lines fuel rest
        return .header h :: more
      else do
        let (p, rest) ← pair? (value? maxNesting) (c :: rest)
        let rest ← endLine? rest
        let more ← lines fuel rest
        return .pair p :: more

/-! ### Documents -/

/-- The keys in front of the first header, and every header with the keys that follow it. -/
def sections : List Line → List Pair × List (Header × List Pair)
  | [] => ([], [])
  | .pair p :: rest =>
    let (ps, ss) := sections rest
    (p :: ps, ss)
  | .header h :: rest =>
    let (ps, ss) := sections rest
    ([], (h, ps) :: ss)

/-- Add keys to a table, one after the other. -/
def Table.addPairs? (pairs : List Pair) (t : Table) : Option Table :=
  match pairs with
  | [] => some t
  | p :: rest => (t.addPair? p).bind (addPairs? rest)

/-- Add a header and the keys that follow it to a document. -/
def Table.addSection? (t : Table) (h : Header) (pairs : List Pair) : Option Table :=
  let enter := if h.repeated then openElement? else openTable?
  below? (enter h.key (addPairs? pairs)) h.steps t

/-- Add sections to a document, one after the other. -/
def Table.addSections? (sections : List (Header × List Pair)) (t : Table) : Option Table :=
  match sections with
  | [] => some t
  | (h, ps) :: rest => (t.addSection? h ps).bind (addSections? rest)

/-- Read a document.  A byte order mark in front of it does not count. -/
def read? (text : List Char) : Option Table := do
  let cs :=
    match text with
    | '\ufeff' :: rest => rest
    | cs => cs
  let (pairs, rest) := sections (← lines (cs.length + 1) cs)
  let root ← Table.addPairs? pairs []
  root.addSections? rest

end NestedWorkflow.Toml
