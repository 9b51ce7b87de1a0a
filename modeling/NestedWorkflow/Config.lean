import NestedWorkflow.Json.Value

/-!
# Configuration

What can be set for the handlers of workflow nodes, with the defaults, and the document of a
configuration.
-/

namespace NestedWorkflow

/-- Where artifacts are kept. -/
inductive StorageBackend
  | memory
  | directory
deriving DecidableEq, Inhabited

/-- How artifacts are kept. -/
structure StorageConfig where
  backend : StorageBackend
  /-- The directory of the directory backend. -/
  root : Option String
  /-- Put in front of every key. -/
  base : String
deriving DecidableEq

/-- Artifacts in memory. -/
def StorageConfig.default : StorageConfig := ⟨.memory, none, ""⟩

/-- Settings of the handlers. -/
structure Config where
  /-- File in its output directory to which a node writes its outputs. -/
  outputsFile : String
  /-- File in its data directory from which a node's inputs are read. -/
  inputsFile : String
  /-- Length of the unique identifiers. -/
  uniqueIdLength : Nat
  storage : StorageConfig
deriving DecidableEq

/-- Length of unique identifiers where nothing else is set. -/
def defaultUniqueIdLength : Nat := 20

/-- What holds where nothing is set. -/
def Config.default : Config :=
  ⟨"outputs.json", "inputs.json", defaultUniqueIdLength, StorageConfig.default⟩

/-- Why there is no configuration, or no store for it. -/
inductive ConfigError
  | unreadable
  | unparsable
  | missingRoot
deriving DecidableEq

/-- The report of an error. -/
def ConfigError.message : ConfigError → String
  | .unreadable => "Failed to read configuration file"
  | .unparsable => "Failed to parse configuration file"
  | .missingRoot => "Local storage backend requires a root directory"

/-- The name of a backend in documents. -/
def StorageBackend.name : StorageBackend → String
  | .memory => "memory"
  | .directory => "local"

/-- A store can be opened: artifacts are kept in memory, or a directory is given. -/
def StorageConfig.check (s : StorageConfig) : Except ConfigError Unit :=
  match s.backend, s.root with
  | .directory, none => .error .missingRoot
  | _, _ => .ok ()

/-- The document of a storage configuration. -/
def StorageConfig.toJson (s : StorageConfig) : Json.Value :=
  .record [("backend", .text s.backend.name), ("root", .nullable (s.root.map .text)),
    ("prefix", .text s.base)]

/-- The document of a configuration. -/
def Config.toJson (c : Config) : Json.Value :=
  .record [("outputs_file", .text c.outputsFile), ("inputs_file", .text c.inputsFile),
    ("max_unique_id_length", .nat c.uniqueIdLength), ("storage", c.storage.toJson)]

end NestedWorkflow
