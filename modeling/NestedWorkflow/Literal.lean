import NestedWorkflow.Decimal.Double
import NestedWorkflow.Json.Decode
import NestedWorkflow.Word

/-!
# Literal values

The values that travel into and out of nodes, and how they are read.  Integers of up to sixty-four
bits stay integers, any other number is a double.
-/

namespace NestedWorkflow

/-- A literal value.  The entries of a dictionary are in key order; doubles are kept as bits. -/
inductive Literal
  | null
  | bool (b : Bool)
  | int (i : Int)
  | double (bits : UInt64)
  | text (s : String)
  | list (items : List Literal)
  | dict (entries : List (String × Literal))

instance : Inhabited Literal := ⟨.null⟩

/-- Named literals, the inputs of a node. -/
abbrev LiteralMap := Dict Literal

namespace Literal

/-- The literal that a numeral denotes, unless it is too large for a double. -/
def ofNumeral? (n : Json.Numeral) : Option Literal :=
  let asDouble : Option Literal :=
    let exponent := n.exponent.getD ⟨false, []⟩
    (Decimal.doubleBits? n.negative n.whole (n.fraction.getD []) exponent.negative
      exponent.digits).map double
  if n.fraction.isSome ∨ n.exponent.isSome then asDouble
  else
    let k := Decimal.value n.whole
    if n.negative then
      if 0 < k ∧ k ≤ Word.size63 then some (.int (-(k : Int))) else asDouble
    else if k < Word.size64 then some (.int k) else asDouble

/-- Read a literal.  Every part of it counts against the nesting that is allowed. -/
def ofJson : Nat → Json.Value → Except Json.Error Literal
  | _, .null => .ok .null
  | _, .bool b => .ok (.bool b)
  | _, .number n =>
    match ofNumeral? n with
    | some l => .ok l
    | none => .error .malformed
  | _, .string (some s) => .ok (.text s)
  | n + 1, .array items closed => do
    let ls ← Json.readAll (ofJson n) items
    Json.whenClosed closed (.list ls)
  | n + 1, .object members closed => do
    let d ← Json.readInto (ofJson n) Dict.empty members
    Json.whenClosed closed (.dict d.entries)
  | _, _ => .error .malformed

end Literal

/-- Read named literals: one object. -/
def LiteralMap.ofJson : Nat → Json.Value → Except Json.Error LiteralMap :=
  Json.dictionary Literal.ofJson

/-- Read named literals from the bytes of a text. -/
def LiteralMap.ofBytes? (bytes : ByteArray) : Option LiteralMap :=
  match String.fromUTF8? bytes with
  | none => none
  | some s => (Json.decodeText LiteralMap.ofJson s).toOption

end NestedWorkflow
