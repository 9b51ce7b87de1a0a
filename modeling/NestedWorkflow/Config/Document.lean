import NestedWorkflow.Config
import NestedWorkflow.Toml.Reader

/-!
# Reading configurations

A configuration is a TOML document.  What it leaves out keeps its default, and keys without a
meaning are ignored.  The storage settings may also be an array that gives them in order.
-/

namespace NestedWorkflow

open Toml

namespace StorageBackend

/-- The backend of a name. -/
def ofName? (name : String) : Option StorageBackend :=
  if name = "memory" then some .memory else if name = "local" then some .directory else none

/-- Nothing is given with the name of a backend. -/
def isBare : Item → Bool
  | .table _ [] => true
  | .array [] => true
  | .tables [] => true
  | _ => false

/-- A backend: its name, alone or as the only key of a table with nothing under it. -/
def ofItem? : Item → Option StorageBackend
  | .string s => ofName? s
  | .table _ [(name, item)] => if isBare item then ofName? name else none
  | _ => none

end StorageBackend

/-- A text. -/
def Toml.Item.text? : Item → Option String
  | .string s => some s
  | _ => none

/-- A natural number. -/
def Toml.Item.nat? : Item → Option Nat
  | .integer i => if 0 ≤ i then some i.toNat else none
  | _ => none

/-- What a key holds, read in the way given, or a default where the key is missing. -/
def Toml.Table.readOr? {α : Type} (t : Table) (key : String) (read : Item → Option α)
    (fallback : α) : Option α :=
  match t.get? key with
  | none => some fallback
  | some item => read item

namespace StorageConfig

/-- Storage settings by their keys. -/
def ofTable? (t : Table) : Option StorageConfig := do
  let backend ← t.readOr? "backend" StorageBackend.ofItem? StorageConfig.default.backend
  let root ← t.readOr? "root" (fun item => item.text?.map some) StorageConfig.default.root
  let base ← t.readOr? "prefix" Item.text? StorageConfig.default.base
  return ⟨backend, root, base⟩

/-- Storage settings in their order, as far as they are given. -/
def ofItems? (items : List Item) : Option StorageConfig :=
  ofTable? (["backend", "root", "prefix"].zip items)

/-- Storage settings in either form.  A date has none of the keys. -/
def ofItem? : Item → Option StorageConfig
  | .table _ entries => ofTable? entries
  | .array items => ofItems? items
  | .tables elements => ofItems? (elements.map (.table .header))
  | .datetime _ => some StorageConfig.default
  | _ => none

end StorageConfig

namespace Config

/-- A configuration by its keys. -/
def ofTable? (t : Table) : Option Config := do
  let outputsFile ← t.readOr? "outputs_file" Item.text? Config.default.outputsFile
  let inputsFile ← t.readOr? "inputs_file" Item.text? Config.default.inputsFile
  let uniqueIdLength ← t.readOr? "max_unique_id_length" Item.nat? Config.default.uniqueIdLength
  let storage ← t.readOr? "storage" StorageConfig.ofItem? Config.default.storage
  return ⟨outputsFile, inputsFile, uniqueIdLength, storage⟩

/-- Read a configuration from the text of its document. -/
def ofText (text : String) : Except ConfigError Config :=
  match (Toml.read? text.toList).bind ofTable? with
  | some c => .ok c
  | none => .error .unparsable

end Config

/-- What is found where a configuration file is expected. -/
inductive ConfigFile
  | absent
  | directory
  | file (bytes : ByteArray)

/-- Load a configuration: no file at all means the defaults. -/
def Config.load : ConfigFile → Except ConfigError Config
  | .absent => .ok Config.default
  | .directory => .error .unreadable
  | .file bytes =>
    match String.fromUTF8? bytes with
    | some text => Config.ofText text
    | none => .error .unreadable

end NestedWorkflow
