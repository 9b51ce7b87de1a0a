import NestedWorkflow.Decimal.Shortest
import NestedWorkflow.Json.Complaint.Token
import NestedWorkflow.Json.Decode
import NestedWorkflow.Text.Unprintable
import NestedWorkflow.Word

/-!
# What is wrong with a text

For bytes that do not spell one JSON object, `complaint` says what is wrong with them first, and at
which line and column it shows.  The steps only look for faults; what the text means is left to the
typed readers.
-/

namespace NestedWorkflow.Json

namespace Complaint

/-! ### Values -/

mutual

/-- A value of any kind.  Fuel counts the calls on a path into the text. -/
def value : Nat → Nat → Bytes → Step Unit
  | 0, _, bs => here .noValue bs
  | fuel + 1, nesting, bs =>
    match skipBlanks bs with
    | [] => here .endInValue []
    | b :: rest =>
      if isByte b 'n' then word ['u', 'l', 'l'] rest
      else if isByte b 't' then word ['r', 'u', 'e'] rest
      else if isByte b 'f' then word ['a', 'l', 's', 'e'] rest
      else if isByte b '-' then (number true rest).map fun r => ((), r.2)
      else if isDigit b then (number false (b :: rest)).map fun r => ((), r.2)
      else if isByte b '"' then (string rest).map fun r => ((), r.2)
      else if isByte b '[' then
        if nesting = 0 then here .tooDeep rest else items fuel (nesting - 1) true rest
      else if isByte b '\x7b' then
        if nesting = 0 then here .tooDeep rest else members fuel (nesting - 1) true rest
      else here .noValue rest

/-- The items of an array, from its first one or from behind an item on. -/
def items : Nat → Nat → Bool → Bytes → Step Unit
  | 0, _, _, bs => here .noValue bs
  | fuel + 1, nesting, first, bs =>
    let next (bs : Bytes) : Step Unit :=
      match value fuel nesting bs with
      | .error e => .error e
      | .ok ((), rest) => items fuel nesting false rest
    match skipBlanks bs with
    | [] => here .endInList []
    | b :: rest =>
      if isByte b ']' then .ok ((), rest)
      else if first then next (b :: rest)
      else if isByte b ',' then
        match skipBlanks rest with
        | [] => here .endInValue []
        | c :: more => if isByte c ']' then here .trailingComma more else next (c :: more)
      else here .noListComma rest

/-- The members of an object, from its first one or from behind a member on. -/
def members : Nat → Nat → Bool → Bytes → Step Unit
  | 0, _, _, bs => here .noValue bs
  | fuel + 1, nesting, first, bs =>
    let next (bs : Bytes) : Step Unit :=
      match string bs with
      | .error e => .error e
      | .ok (_, rest) =>
        match skipBlanks rest with
        | [] => here .endInObject []
        | b :: rest =>
          if isByte b ':' then
            match value fuel nesting rest with
            | .error e => .error e
            | .ok ((), rest) => members fuel nesting false rest
          else here .noColon rest
    match skipBlanks bs with
    | [] => here .endInObject []
    | b :: rest =>
      if isByte b '\x7d' then .ok ((), rest)
      else if first then if isByte b '"' then next rest else here .keyIsNoText rest
      else if isByte b ',' then
        match skipBlanks rest with
        | [] => here .endInValue []
        | c :: more =>
          if isByte c '"' then next more
          else if isByte c '\x7d' then here .trailingComma more
          else here .keyIsNoText more
      else here .noObjectComma rest

end

/-! ### Whole texts -/

/-- A character inside quotes in a report: what cannot be seen is spelled by its number. -/
def shown (c : Char) : String :=
  match c with
  | '"' => "\\\""
  | '\\' => "\\\\"
  | '\n' => "\\n"
  | '\r' => "\\r"
  | '\t' => "\\t"
  | '\x00' => "\\0"
  | c =>
    if isUnprintable c then "\\u\x7b" ++ String.ofList (Nat.toDigits 16 c.toNat) ++ "\x7d"
    else c.toString

/-- How a report speaks of a number. -/
def describeNumber (n : Numeral) : String :=
  let e := n.exponent.getD ⟨false, []⟩
  let asDouble : String :=
    match Decimal.doubleBits? n.negative n.whole (n.fraction.getD []) e.negative e.digits with
    | some bits => "floating point `" ++ String.ofList (Decimal.Shortest.render bits) ++ "`"
    | none => "number"
  if n.fraction.isSome ∨ n.exponent.isSome then asDouble
  else
    let k := Decimal.value n.whole
    let asInteger : String :=
      "integer `" ++ (if n.negative then "-" else "") ++ String.ofList (Decimal.digits k) ++ "`"
    if n.negative then (if 0 < k ∧ k ≤ Word.size63 then asInteger else asDouble)
    else if k < Word.size64 then asInteger else asDouble

/-- A value of another kind where an object should be. -/
def otherKind (bs : Bytes) : Step Unit :=
  let found {α : Type} (step : Step α) (describe : α → String) : Step Unit :=
    match step with
    | .error e => .error e
    | .ok (a, left) => here (.noObject (describe a)) left
  match bs with
  | [] => here .endInValue []
  | b :: rest =>
    if isByte b 'n' then found (word ['u', 'l', 'l'] rest) fun _ => "null"
    else if isByte b 't' then found (word ['r', 'u', 'e'] rest) fun _ => "boolean `true`"
    else if isByte b 'f' then found (word ['a', 'l', 's', 'e'] rest) fun _ => "boolean `false`"
    else if isByte b '-' then found (number true rest) describeNumber
    else if isDigit b then found (number false bs) describeNumber
    else if isByte b '"' then
      found (string rest) fun s => "string \"" ++ String.join (s.toList.map shown) ++ "\""
    else if isByte b '[' then here (.noObject "sequence") bs
    else here .noValue rest

/-- One object with nothing but blanks around it. -/
def document (bytes : Bytes) : Step Unit :=
  match skipBlanks bytes with
  | [] => here .endInValue []
  | b :: rest =>
    if isByte b '\x7b' then
      match members (2 * bytes.length + 2) (maxNesting - 1) true rest with
      | .error e => .error e
      | .ok ((), left) =>
        match skipBlanks left with
        | [] => .ok ((), [])
        | _ :: more => here .trailingCharacters more
    else otherKind (b :: rest)

/-- The line of a place behind some bytes. -/
def line (before : Bytes) : Nat := 1 + (before.filter fun b => isByte b '\n').length

/-- The column of a place behind some bytes. -/
def column (before : Bytes) : Nat := (before.reverse.takeWhile fun b => !isByte b '\n').length

/-- The report of a complaint about some bytes. -/
def report (bytes : Bytes) (c : Complaint) : String :=
  let before := bytes.take (bytes.length - c.left.length)
  c.fault.message ++ " at line " ++ String.ofList (Decimal.digits (line before)) ++ " column " ++
    String.ofList (Decimal.digits (column before))

end Complaint

/-- What is wrong first with bytes that should spell an object; nothing is said where nothing is. -/
def complaint (bytes : List UInt8) : String :=
  match Complaint.document bytes with
  | .error c => c.report bytes
  | .ok _ => ""

end NestedWorkflow.Json
