/-!
# References to stored data

A reference is a slash-separated path.  `Reference.join` goes one step further down, and
`Reference.segments` is what a store makes of the path: the pieces between the slashes that are
not empty.
-/

namespace NestedWorkflow

/-- Identifier of a node, unique within its workflow. -/
abbrev NodeId := String

/-- Identifier of a sub-workflow within the workflow that uses it. -/
abbrev SubWorkflowId := String

/-- Identifier of one execution of a node, across nesting levels and attempts. -/
abbrev UniqueId := String

/-- The node every workflow starts from. -/
def startNodeId : NodeId := "start-node"

/-- The node that collects a workflow's outputs. -/
def endNodeId : NodeId := "end-node"

namespace Slashed

/-- The text without its leading slashes. -/
def trimStart (cs : List Char) : List Char := cs.dropWhile (· == '/')

/-- The text without its trailing slashes. -/
def trimEnd (cs : List Char) : List Char := (trimStart cs.reverse).reverse

/-- The text without slashes at either end. -/
def trim (cs : List Char) : List Char := trimEnd (trimStart cs)

/-- The segments of a text whose first segment continues `current`. -/
def segmentsFrom (current : List Char) : List Char → List (List Char)
  | [] => if current = [] then [] else [current]
  | c :: cs =>
    if c = '/' then
      if current = [] then segmentsFrom [] cs else current :: segmentsFrom [] cs
    else segmentsFrom (current ++ [c]) cs

/-- The pieces between slashes, the empty ones left out. -/
def segments (cs : List Char) : List (List Char) := segmentsFrom [] cs

end Slashed

/-- Location of data in an artifact store. -/
structure Reference where
  /-- The path as written. -/
  path : String
deriving DecidableEq, Inhabited

namespace Reference

/-- The reference without a path. -/
def empty : Reference := ⟨""⟩

/-- There is no path at all. -/
def isEmpty (r : Reference) : Bool := r.path == ""

/-- One step down.  Slashes around the step do not count, and neither do those at the end of the
base; below the empty reference the step stands alone. -/
def join (base : Reference) (step : String) : Reference :=
  let tail := Slashed.trim step.toList
  if base.isEmpty then ⟨String.ofList tail⟩
  else ⟨String.ofList (Slashed.trimEnd base.path.toList ++ '/' :: tail)⟩

/-- The non-empty pieces of the path. -/
def segments (r : Reference) : List String :=
  (Slashed.segments r.path.toList).map String.ofList

end Reference

end NestedWorkflow
