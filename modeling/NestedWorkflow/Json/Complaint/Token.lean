import NestedWorkflow.Decimal.Double
import NestedWorkflow.Json.Fault
import NestedWorkflow.Json.Reader

/-!
# Faults in tokens

Strings, numbers and words that are looked at for faults.  Every step takes the bytes that are left
and returns what it found and the bytes behind it.
-/

namespace NestedWorkflow.Json.Complaint

/-- The byte is the one of this ASCII character. -/
def isByte (b : UInt8) (c : Char) : Bool := b.toNat == c.toNat

/-- A decimal digit. -/
def isDigit (b : UInt8) : Bool := 48 ≤ b.toNat && b.toNat ≤ 57

/-- The bytes without leading blanks. -/
def skipBlanks (bs : Bytes) : Bytes :=
  bs.dropWhile fun b => isByte b ' ' || isByte b '\n' || isByte b '\t' || isByte b '\r'

/-- The character of an ASCII byte. -/
def char (b : UInt8) : Char := Char.ofNat b.toNat

/-! ### Strings -/

/-- Four hexadecimal digits. -/
def unit : Bytes → Step Nat
  | a :: b :: c :: d :: rest =>
    match Reader.unit? (char a) (char b) (char c) (char d) with
    | some n => .ok (n, rest)
    | none => here .badEscape rest
  | _ => here .endInString []

/-- The second half of a surrogate pair behind the first. -/
def lowSurrogate : Bytes → Step Nat
  | [] => here .endInString []
  | b :: rest =>
    if isByte b '\\' then
      match rest with
      | [] => here .endInString []
      | c :: rest =>
        if isByte c 'u' then
          match unit rest with
          | .error e => .error e
          | .ok (n, rest) =>
            if Reader.isLowSurrogate n then .ok (n, rest) else here .loneSurrogate rest
        else here .brokenSurrogatePair rest
    else here .brokenSurrogatePair rest

/-- The character that an escape behind its backslash spells. -/
def escape : Bytes → Step Char
  | [] => here .endInString []
  | b :: rest =>
    if isByte b 'u' then
      match unit rest with
      | .error e => .error e
      | .ok (n, rest) =>
        if Reader.isLowSurrogate n then here .loneSurrogate rest
        else if Reader.isHighSurrogate n then
          (lowSurrogate rest).map fun (m, left) =>
            (Char.ofNat (0x10000 + 1024 * (n - 0xd800) + (m - 0xdc00)), left)
        else .ok (Char.ofNat n, rest)
    else
      match Reader.shortEscape? (char b) with
      | some c => .ok (c, rest)
      | none => here .badEscape rest

/-- The bytes that a string spells, up to its closing quote.  Fuel counts bytes. -/
def scan : Nat → Bytes → Step Bytes
  | 0, bs => here .endInString bs
  | _ + 1, [] => here .endInString []
  | fuel + 1, b :: rest =>
    if isByte b '"' then .ok ([], rest)
    else if isByte b '\\' then
      match escape rest with
      | .error e => .error e
      | .ok (c, rest) =>
        (scan fuel rest).map fun (more, left) => (c.toString.toUTF8.data.toList ++ more, left)
    else if b < 0x20 then here .controlCharacter rest
    else (scan fuel rest).map fun (more, left) => (b :: more, left)

/-- Where the first byte of no character is, from a place on.  Fuel counts characters. -/
def firstStray (bytes : ByteArray) : Nat → Nat → Nat
  | 0, start => start
  | fuel + 1, start =>
    match bytes.utf8DecodeChar? start with
    | none => start
    | some c => firstStray bytes fuel (start + c.utf8Size)

/-- A string behind its opening quote.  Only a string that is closed is looked at for bytes that
belong to no character; the first of them shows the fault. -/
def string (bs : Bytes) : Step String :=
  match scan (bs.length + 1) bs with
  | .error e => .error e
  | .ok (spelled, left) =>
    match String.fromUTF8? ⟨spelled.toArray⟩ with
    | some s => .ok (s, left)
    | none => atNext .badText (bs.drop (firstStray ⟨bs.toArray⟩ bs.length 0))

/-! ### Numbers and words -/

/-- Digits, possibly none. -/
def digits (bs : Bytes) : List Char × Bytes :=
  ((bs.takeWhile isDigit).map char, bs.dropWhile isDigit)

/-- Digits in front of the point. -/
def whole : Bytes → Step (List Char)
  | [] => here .endInValue []
  | b :: rest =>
    if isByte b '0' then
      if (rest.head?.map isDigit).getD false then atNext .badNumber rest else .ok (['0'], rest)
    else if isDigit b then .ok (digits (b :: rest))
    else here .badNumber rest

/-- Digits behind a point, if there is one. -/
def fraction : Bytes → Step (Option (List Char))
  | [] => .ok (none, [])
  | b :: rest =>
    if isByte b '.' then
      match digits rest with
      | ([], []) => here .endInValue []
      | ([], left) => atNext .badNumber left
      | (ds, left) => .ok (some ds, left)
    else .ok (none, b :: rest)

/-- The exponent, if there is one. -/
def exponent : Bytes → Step (Option Exponent)
  | [] => .ok (none, [])
  | b :: rest =>
    if isByte b 'e' || isByte b 'E' then
      let (negative, rest) :=
        match rest with
        | c :: more =>
          if isByte c '-' then (true, more)
          else if isByte c '+' then (false, more)
          else (false, rest)
        | [] => (false, [])
      match rest with
      | [] => here .endInValue []
      | c :: more =>
        if isDigit c then
          let (ds, left) := digits (c :: more)
          .ok (some ⟨negative, ds⟩, left)
        else here .badNumber more
    else .ok (none, b :: rest)

/-- The bytes behind the digit of an exponent that makes it too large to be read. -/
def behindOverflow (start : Bytes) : Bytes :=
  let ds := (start.dropWhile fun b => !(isByte b 'e' || isByte b 'E')).tail
  let ds := ds.dropWhile fun b => !isDigit b
  let rec go (n : Nat) : Bytes → Bytes
    | [] => []
    | b :: rest =>
      let n := 10 * n + Decimal.digitValue (char b)
      if Decimal.maxExponent < n then rest else go n rest
  go 0 ds

/-- A number's digits, behind its sign. -/
def numeral (negative : Bool) (bs : Bytes) : Step Numeral :=
  match whole bs with
  | .error e => .error e
  | .ok (ds, left) =>
    match fraction left with
    | .error e => .error e
    | .ok (fraction, left) =>
      (exponent left).map fun (e, left) => (⟨negative, ds, fraction, e⟩, left)

/-- A number behind its sign.  It has to be small enough for a double. -/
def number (negative : Bool) (bs : Bytes) : Step Numeral :=
  match numeral negative bs with
  | .error e => .error e
  | .ok (n, left) =>
    let e := n.exponent.getD ⟨false, []⟩
    match Decimal.doubleBits? negative n.whole (n.fraction.getD []) e.negative e.digits with
    | some _ => .ok (n, left)
    | none =>
      if Decimal.maxExponent < Decimal.value e.digits then here .numberTooLarge (behindOverflow bs)
      else here .numberTooLarge left

/-- The rest of a word. -/
def word : List Char → Bytes → Step Unit
  | [], bs => .ok ((), bs)
  | _ :: _, [] => here .endInValue []
  | c :: cs, b :: rest => if isByte b c then word cs rest else here .noWord rest

end NestedWorkflow.Json.Complaint
