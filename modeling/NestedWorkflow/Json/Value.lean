import NestedWorkflow.Decimal

/-!
# JSON documents

A document is kept as a tree that also records where reading had to stop: an array or object that
was not closed, a member whose value never came.  Typed readers walk the tree from left to right, so
the first thing wrong with a document, be it spelling or meaning, is the one they meet first.

`Value.render` writes the compact form of a tree.
-/

namespace NestedWorkflow.Json

/-- The power of ten behind a number. -/
structure Exponent where
  negative : Bool
  digits : List Char
deriving DecidableEq

/-- A number as it is spelled. -/
structure Numeral where
  negative : Bool
  whole : List Char
  fraction : Option (List Char)
  exponent : Option Exponent
deriving DecidableEq

/-- A document, possibly one that could not be read to its end.  A string is `none` when its escapes
spell half of a surrogate pair, which no text can hold. -/
inductive Value
  | null
  | bool (b : Bool)
  | number (n : Numeral)
  | string (s : Option String)
  | array (items : List Value) (closed : Bool)
  | object (members : List (Option String × Value)) (closed : Bool)
  | broken

instance : Inhabited Value := ⟨.null⟩

namespace Value

/-- A string that is a text. -/
def text (s : String) : Value := .string (some s)

/-- A natural number. -/
def nat (n : Nat) : Value := .number ⟨false, Decimal.digits n, none, none⟩

/-- An integer. -/
def int (i : Int) : Value := .number ⟨decide (i < 0), Decimal.digits i.natAbs, none, none⟩

/-- A complete array. -/
def list (items : List Value) : Value := .array items true

/-- A complete object. -/
def record (members : List (String × Value)) : Value :=
  .object (members.map fun m => (some m.1, m.2)) true

/-- A value or `null`. -/
def nullable : Option Value → Value
  | none => .null
  | some v => v

mutual

/-- The document was read to its end. -/
def isWhole : Value → Bool
  | .null => true
  | .bool _ => true
  | .number _ => true
  | .string _ => true
  | .array items closed => areWhole items && closed
  | .object members closed => membersAreWhole members && closed
  | .broken => false

/-- All items were read to their end. -/
def areWhole : List Value → Bool
  | [] => true
  | v :: rest => v.isWhole && areWhole rest

/-- All members were read to their end. -/
def membersAreWhole : List (Option String × Value) → Bool
  | [] => true
  | (_, v) :: rest => v.isWhole && membersAreWhole rest

end

/-! ### Writing -/

/-- A hexadecimal digit of an escape. -/
def escapeDigit (n : Nat) : Char :=
  if n < 10 then Char.ofNat (48 + n) else Char.ofNat (87 + n)

/-- A character inside a string. -/
def escape (c : Char) : List Char :=
  if c = '"' then ['\\', '"']
  else if c = '\\' then ['\\', '\\']
  else if c = '\x08' then ['\\', 'b']
  else if c = '\x0c' then ['\\', 'f']
  else if c = '\n' then ['\\', 'n']
  else if c = '\r' then ['\\', 'r']
  else if c = '\t' then ['\\', 't']
  else if c.toNat < 0x20 then
    ['\\', 'u', '0', '0', escapeDigit (c.toNat / 16), escapeDigit (c.toNat % 16)]
  else [c]

/-- The characters of a string between its quotes. -/
def escapeAll : List Char → List Char
  | [] => []
  | c :: cs => escape c ++ escapeAll cs

/-- A string in its quotes. -/
def quote (s : String) : List Char := '"' :: (escapeAll s.toList ++ ['"'])

/-- A string in its quotes; what is no text has no spelling. -/
def quote? : Option String → List Char
  | some s => quote s
  | none => []

end Value

namespace Numeral

/-- The spelling of a number. -/
def render (n : Numeral) : List Char :=
  (if n.negative then ['-'] else []) ++ n.whole ++
    (match n.fraction with
      | none => []
      | some ds => '.' :: ds) ++
    (match n.exponent with
      | none => []
      | some e => 'e' :: (if e.negative then ['-'] else []) ++ e.digits)

end Numeral

namespace Value

mutual

/-- The compact form: no blanks, members as they come. -/
def render : Value → List Char
  | .null => ['n', 'u', 'l', 'l']
  | .bool true => ['t', 'r', 'u', 'e']
  | .bool false => ['f', 'a', 'l', 's', 'e']
  | .number n => n.render
  | .string s => quote? s
  | .array items closed => '[' :: (renderItems items ++ if closed then [']'] else [])
  | .object members closed =>
    '\x7b' :: (renderMembers members ++ if closed then ['\x7d'] else [])
  | .broken => []

/-- Items with commas between them. -/
def renderItems : List Value → List Char
  | [] => []
  | v :: rest =>
    v.render ++ (match rest with
      | [] => []
      | _ :: _ => ',' :: renderItems rest)

/-- Members with commas between them. -/
def renderMembers : List (Option String × Value) → List Char
  | [] => []
  | (k, v) :: rest =>
    quote? k ++ ':' :: (v.render ++ (match rest with
      | [] => []
      | _ :: _ => ',' :: renderMembers rest))

end

/-- The compact form as a text. -/
def toText (v : Value) : String := String.ofList v.render

end Value

end NestedWorkflow.Json
