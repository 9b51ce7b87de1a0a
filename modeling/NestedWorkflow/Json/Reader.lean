import NestedWorkflow.Hash.Hex
import NestedWorkflow.Json.Value

/-!
# Reading JSON text

The reader never fails: where the text stops being a document, the tree says so (`Value.broken`, or
an array or object that is not closed), and nothing after that point is looked at.  Every function
returns what it read and the text that is left, `none` where reading stopped.

Nesting is not limited here.  Fuel counts the calls on a path into the document; the wrapper `read`
gives two for each character, which is enough because of any two calls on a path one takes a
character.
-/

namespace NestedWorkflow.Json

namespace Reader

/-- Blanks between tokens. -/
def isBlank (c : Char) : Bool := c == ' ' || c == '\t' || c == '\n' || c == '\r'

/-- The text from its first token on. -/
def skipBlanks (cs : List Char) : List Char := cs.dropWhile isBlank

/-! ### Strings -/

/-- What a string is made of: plain characters and escaped UTF-16 units. -/
inductive Piece
  | char (c : Char)
  | unit (n : Nat)
deriving DecidableEq

/-- The unit that four hexadecimal digits spell. -/
def unit? (a b c d : Char) : Option Nat := do
  let a ← Hex.value? a
  let b ← Hex.value? b
  let c ← Hex.value? c
  let d ← Hex.value? d
  return 4096 * a + 256 * b + 16 * c + d

/-- The character of a short escape. -/
def shortEscape? (c : Char) : Option Char :=
  if c = '"' ∨ c = '\\' ∨ c = '/' then some c
  else if c = 'b' then some '\x08'
  else if c = 'f' then some '\x0c'
  else if c = 'n' then some '\n'
  else if c = 'r' then some '\r'
  else if c = 't' then some '\t'
  else none

/-- The pieces up to the closing quote, and the text behind it. -/
def scanString : List Char → Option (List Piece × List Char)
  | [] => none
  | '"' :: rest => some ([], rest)
  | '\\' :: 'u' :: a :: b :: c :: d :: rest =>
    match unit? a b c d, scanString rest with
    | some n, some (ps, left) => some (.unit n :: ps, left)
    | _, _ => none
  | '\\' :: c :: rest =>
    match shortEscape? c, scanString rest with
    | some e, some (ps, left) => some (.char e :: ps, left)
    | _, _ => none
  | c :: rest =>
    if c.toNat < 0x20 then none
    else
      match scanString rest with
      | some (ps, left) => some (.char c :: ps, left)
      | none => none

/-- First half of a surrogate pair. -/
def isHighSurrogate (n : Nat) : Bool := 0xd800 ≤ n && n < 0xdc00

/-- Second half of a surrogate pair. -/
def isLowSurrogate (n : Nat) : Bool := 0xdc00 ≤ n && n < 0xe000

/-- The characters that the pieces spell, unless half of a surrogate pair stands alone. -/
def assemble : List Piece → Option (List Char)
  | [] => some []
  | .char c :: rest => (assemble rest).map (c :: ·)
  | .unit n :: .unit m :: rest =>
    if isHighSurrogate n then
      if isLowSurrogate m then
        (assemble rest).map (Char.ofNat (0x10000 + 1024 * (n - 0xd800) + (m - 0xdc00)) :: ·)
      else none
    else if isLowSurrogate n then none
    else (assemble (.unit m :: rest)).map (Char.ofNat n :: ·)
  | .unit n :: rest =>
    if isHighSurrogate n || isLowSurrogate n then none
    else (assemble rest).map (Char.ofNat n :: ·)

/-- A string whose opening quote has been read. -/
def readString (cs : List Char) : Option (Option String × List Char) :=
  match scanString cs with
  | some (ps, left) => some ((assemble ps).map String.ofList, left)
  | none => none

/-! ### Numbers -/

/-- The digits at the front, at least one of them, and the text behind. -/
def digits? (cs : List Char) : Option (List Char × List Char) :=
  match cs.takeWhile Decimal.isDigit with
  | [] => none
  | ds => some (ds, cs.dropWhile Decimal.isDigit)

/-- The digits in front of the point: a single zero or no leading zero. -/
def whole? (cs : List Char) : Option (List Char × List Char) :=
  match digits? cs with
  | some ('0' :: _ :: _, _) => none
  | other => other

/-- The digits behind a point, if there is one. -/
def fraction? : List Char → Option (Option (List Char) × List Char)
  | '.' :: rest => (digits? rest).map fun (ds, left) => (some ds, left)
  | cs => some (none, cs)

/-- The exponent, if there is one. -/
def exponent? : List Char → Option (Option Exponent × List Char)
  | c :: rest =>
    if c = 'e' ∨ c = 'E' then
      match rest with
      | '-' :: rest => (digits? rest).map fun (ds, left) => (some ⟨true, ds⟩, left)
      | '+' :: rest => (digits? rest).map fun (ds, left) => (some ⟨false, ds⟩, left)
      | rest => (digits? rest).map fun (ds, left) => (some ⟨false, ds⟩, left)
    else some (none, c :: rest)
  | [] => some (none, [])

/-- The rest of a number after its sign. -/
def unsigned? (negative : Bool) (cs : List Char) : Option (Numeral × List Char) :=
  match whole? cs with
  | none => none
  | some (whole, cs) =>
    match fraction? cs with
    | none => none
    | some (fraction, cs) =>
      match exponent? cs with
      | none => none
      | some (exponent, cs) => some (⟨negative, whole, fraction, exponent⟩, cs)

/-- A number. -/
def numeral? : List Char → Option (Numeral × List Char)
  | '-' :: rest => unsigned? true rest
  | cs => unsigned? false cs

/-! ### Values -/

mutual

/-- A value, after any blanks. -/
def readValue : Nat → List Char → Value × Option (List Char)
  | 0, _ => (.broken, none)
  | fuel + 1, cs =>
    match skipBlanks cs with
    | 'n' :: 'u' :: 'l' :: 'l' :: rest => (.null, some rest)
    | 't' :: 'r' :: 'u' :: 'e' :: rest => (.bool true, some rest)
    | 'f' :: 'a' :: 'l' :: 's' :: 'e' :: rest => (.bool false, some rest)
    | '"' :: rest =>
      match readString rest with
      | some (s, left) => (.string s, some left)
      | none => (.broken, none)
    | '[' :: rest =>
      match skipBlanks rest with
      | ']' :: left => (.array [] true, some left)
      | rest =>
        match readItems fuel rest with
        | (items, left) => (.array items left.isSome, left)
    | '\x7b' :: rest =>
      match skipBlanks rest with
      | '\x7d' :: left => (.object [] true, some left)
      | rest =>
        match readMembers fuel rest with
        | (members, left) => (.object members left.isSome, left)
    | cs =>
      match numeral? cs with
      | some (n, left) => (.number n, some left)
      | none => (.broken, none)

/-- The items of an array from its first or next one on, up to the closing bracket. -/
def readItems : Nat → List Char → List Value × Option (List Char)
  | 0, _ => ([], none)
  | fuel + 1, cs =>
    match readValue fuel cs with
    | (v, none) => ([v], none)
    | (v, some rest) =>
      match skipBlanks rest with
      | ',' :: rest =>
        match readItems fuel rest with
        | (items, left) => (v :: items, left)
      | ']' :: left => ([v], some left)
      | _ => ([v], none)

/-- The members of an object from its first or next one on, up to the closing brace. -/
def readMembers : Nat → List Char → List (Option String × Value) × Option (List Char)
  | 0, _ => ([], none)
  | fuel + 1, cs =>
    match skipBlanks cs with
    | '"' :: rest =>
      match readString rest with
      | none => ([], none)
      | some (key, rest) =>
        match skipBlanks rest with
        | ':' :: rest =>
          match readValue fuel rest with
          | (v, none) => ([(key, v)], none)
          | (v, some rest) =>
            match skipBlanks rest with
            | ',' :: rest =>
              match readMembers fuel rest with
              | (members, left) => ((key, v) :: members, left)
            | '\x7d' :: left => ([(key, v)], some left)
            | _ => ([(key, v)], none)
        | _ => ([(key, .broken)], none)
    | _ => ([], none)

end

end Reader

/-- The document at the front of a text, and the text behind it. -/
def read (text : List Char) : Value × Option (List Char) :=
  Reader.readValue (2 * text.length + 2) text

end NestedWorkflow.Json
