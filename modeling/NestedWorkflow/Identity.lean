import NestedWorkflow.Decimal
import NestedWorkflow.Hash.Hex
import NestedWorkflow.Hash.Sha256
import NestedWorkflow.Reference

/-!
# Unique identifiers of node executions

A node's unique identifier is derived from its own identifier, the unique identifier of the node
that encloses it and that node's current attempt.  The same three parts always give the same
identifier, while a new attempt of the enclosing node gives a new one.

The three parts are hashed with their lengths in front (`preimage`), so that no two triples are
hashed as the same bytes.  Identifiers end up in resource names, which must start with a letter.
-/

namespace NestedWorkflow.UniqueId

/-- Why no identifier can be derived. -/
inductive Error
  | emptyNode
  | emptyParent (node : NodeId)
  | lengthOutOfRange (length : Nat)
deriving DecidableEq

/-- The shortest identifiers. -/
def minLength : Nat := 8

/-- The longest identifiers: a letter and all digits of a digest. -/
def maxLength : Nat := 65

/-- The report of an error. -/
def Error.message : Error → String
  | .emptyNode => "cannot compute a unique ID for an empty node ID"
  | .emptyParent node =>
    "cannot compute a unique ID for node " ++ node ++ ": parent unique ID is empty"
  | .lengthOutOfRange length =>
    "unique ID length " ++ String.ofList (Decimal.digits length) ++
      " is outside the encodable range " ++ String.ofList (Decimal.digits minLength) ++ "..=" ++
      String.ofList (Decimal.digits maxLength)

/-- The bytes of a text. -/
def bytes (s : String) : List UInt8 := s.toUTF8.data.toList

/-- A text with its length in bytes in front. -/
def framed (s : String) : List UInt8 :=
  Sha256.bigEndian64 (bytes s).length ++ bytes s

/-- What is hashed for a node: parent, attempt and node, each framed. -/
def preimage (parent : UniqueId) (attempt : Nat) (node : NodeId) : List UInt8 :=
  framed parent ++ framed (String.ofList (Decimal.digits attempt)) ++ framed node

/-- The first `length - 1` digits of the digest, behind a letter. -/
def ofPreimage (message : List UInt8) (length : Nat) : UniqueId :=
  String.ofList ('f' :: (Hex.encode (Sha256.digest message)).take (length - 1))

/-- The identifier, of the given length, of a node under an attempt of its parent. -/
def compute (node : NodeId) (parent : UniqueId) (attempt length : Nat) : Except Error UniqueId :=
  if length < minLength ∨ maxLength < length then .error (.lengthOutOfRange length)
  else if node = "" then .error .emptyNode
  else if parent = "" then .error (.emptyParent node)
  else .ok (ofPreimage (preimage parent attempt node) length)

end NestedWorkflow.UniqueId
