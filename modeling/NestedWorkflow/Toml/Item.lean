/-!
# TOML documents

What stands under the keys of a TOML document, and the rules by which keys and headers may add to
it.  A table remembers how it came to be, because that decides what may still be added: a header may
open a table that so far was only implied, dotted keys may extend what dotted keys made, and nothing
extends an inline table.
-/

namespace NestedWorkflow.Toml

/-- How a table came to be. -/
inductive Origin
  /-- By a header of its own. -/
  | header
  /-- By the header of a table below it. -/
  | implied
  /-- By a dotted key. -/
  | dotted
  /-- Between braces. -/
  | inline
deriving DecidableEq

/-- What stands under a key.  Floats and dates are kept as they are spelled. -/
inductive Item
  | string (s : String)
  | integer (i : Int)
  | boolean (b : Bool)
  | float (spelling : String)
  | datetime (spelling : String)
  | array (items : List Item)
  | table (origin : Origin) (entries : List (String × Item))
  /-- An array of tables, each with a header of its own. -/
  | tables (elements : List (List (String × Item)))

instance : Inhabited Item := ⟨.boolean false⟩

/-- The entries of a table, in the order in which they came. -/
abbrev Table := List (String × Item)

namespace Table

/-- What stands under a key. -/
def get? (t : Table) (key : String) : Option Item :=
  match t with
  | [] => none
  | (k, item) :: rest => if k = key then some item else get? rest key

/-- Put an item under a key, at the place of an earlier one or at the end. -/
def set (t : Table) (key : String) (item : Item) : Table :=
  match t with
  | [] => [(key, item)]
  | (k, i) :: rest => if k = key then (key, item) :: rest else (k, i) :: set rest key item

/-- Add a new key. -/
def add? (t : Table) (key : String) (item : Item) : Option Table :=
  match t.get? key with
  | none => some (t.set key item)
  | some _ => none

/-- Change the last of some tables. -/
def onLast (f : Table → Option Table) : List Table → Option (List Table)
  | [] => none
  | [t] => (f t).map fun t => [t]
  | t :: rest => (onLast f rest).map (t :: ·)

/-- Add a key below dotted keys. -/
def addDotted? (key : String) (item : Item) : List String → Table → Option Table
  | [], t => t.add? key item
  | step :: rest, t =>
    match t.get? step with
    | none => (addDotted? key item rest []).map fun below => t.set step (.table .dotted below)
    | some (.table .dotted below) =>
      (addDotted? key item rest below).map fun below => t.set step (.table .dotted below)
    | some (.table .implied below) =>
      if rest = [] then none
      else (addDotted? key item rest below).map fun below => t.set step (.table .implied below)
    | some (.tables elements) =>
      if rest = [] then none
      else (onLast (addDotted? key item rest) elements).map fun es => t.set step (.tables es)
    | some _ => none

/-- Go down the path of a header and change the table at its end.  Tables that are missing on the
way are implied. -/
def below? (f : Table → Option Table) : List String → Table → Option Table
  | [], t => f t
  | step :: rest, t =>
    match t.get? step with
    | none => (below? f rest []).map fun below => t.set step (.table .implied below)
    | some (.table .inline _) => none
    | some (.table origin below) =>
      (below? f rest below).map fun below => t.set step (.table origin below)
    | some (.tables elements) =>
      (onLast (below? f rest) elements).map fun es => t.set step (.tables es)
    | some _ => none

/-- Open the table of a key by a header, and fill it. -/
def openTable? (key : String) (fill : Table → Option Table) (t : Table) : Option Table :=
  match t.get? key with
  | none => (fill []).map fun filled => t.set key (.table .header filled)
  | some (.table .implied below) =>
    (fill below).map fun filled =>
      Table.set (t.filter fun e => e.1 ≠ key) key (.table .header filled)
  | some _ => none

/-- Open one more of the tables of a key by a header, and fill it. -/
def openElement? (key : String) (fill : Table → Option Table) (t : Table) : Option Table :=
  match t.get? key with
  | none => (fill []).map fun filled => t.set key (.tables [filled])
  | some (.tables elements) =>
    (fill []).map fun filled => t.set key (.tables (elements ++ [filled]))
  | some _ => none

end Table

end NestedWorkflow.Toml
