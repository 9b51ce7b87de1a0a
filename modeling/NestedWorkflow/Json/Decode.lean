import NestedWorkflow.Dict
import NestedWorkflow.Json.Reader
import NestedWorkflow.Word

/-!
# Typed reading of documents

Readers take a document apart from left to right and report the first thing wrong with it.  At most
`maxNesting` arrays and objects may stand inside one another; every reader of a compound value takes
the number of levels that are still allowed.

Records (`Shape`) may be spelled as objects, whose unknown members are skipped whatever they hold,
or as arrays of their fields in order.
-/

namespace NestedWorkflow.Json

universe u

/-- Why a document is refused. -/
inductive Error
  /-- It is no document, or not one of the expected form. -/
  | malformed
  | missingField (name : String)
  | duplicateField (name : String)
  | unknownVariant (name : String) (expected : List String)
  /-- It reads well, but what it says is refused for the reason given. -/
  | rejected (report : String)
deriving DecidableEq

/-- Names in quotes, with commas between them. -/
def quotedNames : List String → String
  | [] => ""
  | [name] => "`" ++ name ++ "`"
  | name :: rest => "`" ++ name ++ "`, " ++ quotedNames rest

/-- The report of an error; a malformed document has none. -/
def Error.message? : Error → Option String
  | .malformed => none
  | .missingField name => some ("missing field `" ++ name ++ "`")
  | .duplicateField name => some ("duplicate field `" ++ name ++ "`")
  | .unknownVariant name expected =>
    some ("unknown variant `" ++ name ++ "`, expected one of " ++ quotedNames expected)
  | .rejected report => some report

/-- How many arrays and objects may stand inside one another. -/
def maxNesting : Nat := 127

/-! ### Scalars -/

/-- A text. -/
def text : Value → Except Error String
  | .string (some s) => .ok s
  | _ => .error .malformed

/-- Null, or a value. -/
def optional {α : Type u} (reader : Value → Except Error α) : Value → Except Error (Option α)
  | .null => .ok none
  | v => (reader v).map some

/-- The number that an unsigned numeral without point and exponent denotes. -/
def Numeral.nat? (n : Numeral) : Option Nat :=
  if n.negative ∨ n.fraction.isSome ∨ n.exponent.isSome then none
  else some (Decimal.value n.whole)

/-- A natural number up to a limit. -/
def natUpTo (limit : Nat) : Value → Except Error Nat
  | .number n =>
    match n.nat? with
    | some k => if k ≤ limit then .ok k else .error .malformed
    | none => .error .malformed
  | _ => .error .malformed

/-- Counters have thirty-two bits. -/
def counter : Value → Except Error Nat := natUpTo (Word.size32 - 1)

/-- What a name stands for in a table. -/
def named {α : Type u} (table : List (String × α)) (name : String) : Except Error α :=
  match Entries.get? name table with
  | some a => .ok a
  | none => .error (.unknownVariant name (table.map Prod.fst))

/-- One of the names of a table, alone or as the only member of an object, with null under it. -/
def variant {α : Type u} (table : List (String × α)) (nesting : Nat) : Value → Except Error α
  | .string (some name) => named table name
  | .object ((some name, v) :: rest) closed =>
    if nesting = 0 then .error .malformed
    else
      match named table name with
      | .error e => .error e
      | .ok a =>
        match v, rest, closed with
        | .null, [], true => .ok a
        | _, _, _ => .error .malformed
  | _ => .error .malformed

/-! ### Lists and dictionaries -/

/-- The answer, if the container around it was closed. -/
def whenClosed {α : Type u} (closed : Bool) (a : α) : Except Error α :=
  if closed then .ok a else .error .malformed

/-- Read all items in turn. -/
def readAll {α : Type u} (reader : Value → Except Error α) : List Value → Except Error (List α)
  | [] => .ok []
  | v :: rest =>
    match reader v with
    | .error e => .error e
    | .ok a =>
      match readAll reader rest with
      | .error e => .error e
      | .ok as => .ok (a :: as)

/-- Read all members in turn into a dictionary; the last of a key counts. -/
def readInto {α : Type u} (reader : Value → Except Error α) (d : Dict α) :
    List (Option String × Value) → Except Error (Dict α)
  | [] => .ok d
  | (none, _) :: _ => .error .malformed
  | (some key, v) :: rest =>
    match reader v with
    | .error e => .error e
    | .ok a => readInto reader (d.insert key a) rest

/-- An array, its items one level down. -/
def list {α : Type u} (reader : Nat → Value → Except Error α) : Nat → Value → Except Error (List α)
  | n + 1, .array items closed => do
    let as ← readAll (reader n) items
    whenClosed closed as
  | _, _ => .error .malformed

/-- An object, its values one level down. -/
def dictionary {α : Type u} (reader : Nat → Value → Except Error α) :
    Nat → Value → Except Error (Dict α)
  | n + 1, .object members closed => do
    let d ← readInto (reader n) Dict.empty members
    whenClosed closed d
  | _, _ => .error .malformed

/-! ### Records -/

/-- The form of a record: its fields in order, with the type of what each holds. -/
structure Shape (ι : Type) (T : ι → Type) where
  fields : List ι
  name : ι → String
  /-- The field may be left out at the end of an array. -/
  defaulted : ι → Bool
  reader : (i : ι) → Value → Except Error (T i)

/-- A record that is being read: what is known of each field. -/
abbrev Draft {ι : Type} (T : ι → Type) := (i : ι) → Option (T i)

namespace Draft

variable {ι : Type} [DecidableEq ι] {T : ι → Type}

/-- Nothing is known. -/
def empty : Draft T := fun _ => none

/-- One more field is known. -/
def set (d : Draft T) (i : ι) (x : T i) : Draft T := fun j =>
  if h : i = j then some (h ▸ x) else d j

@[simp] theorem set_self (d : Draft T) (i : ι) (x : T i) : d.set i x i = some x := by
  simp [set]

theorem set_of_ne (d : Draft T) {i j : ι} (x : T i) (h : i ≠ j) : d.set i x j = d j := by
  simp [set, h]

end Draft

namespace Shape

variable {ι : Type} [DecidableEq ι] {T : ι → Type}

/-- The field of a name. -/
def field? (s : Shape ι T) (name : String) : Option ι :=
  s.fields.find? fun i => s.name i == name

/-- Take in the members of an object. -/
def readMembers (s : Shape ι T) (d : Draft T) :
    List (Option String × Value) → Except Error (Draft T)
  | [] => .ok d
  | (none, _) :: _ => .error .malformed
  | (some key, v) :: rest =>
    match s.field? key with
    | none => if v.isWhole then s.readMembers d rest else .error .malformed
    | some i =>
      if (d i).isSome then .error (.duplicateField key)
      else
        match s.reader i v with
        | .error e => .error e
        | .ok x => s.readMembers (d.set i x) rest

/-- Take in the items of an array as the given fields. -/
def readItems (s : Shape ι T) (closed : Bool) (d : Draft T) :
    List ι → List Value → Except Error (Draft T)
  | [], [] => whenClosed closed d
  | [], _ :: _ => .error .malformed
  | i :: is, [] => if s.defaulted i then s.readItems closed d is [] else .error .malformed
  | i :: is, v :: rest =>
    match s.reader i v with
    | .error e => .error e
    | .ok x => s.readItems closed (d.set i x) is rest

/-- A record in either spelling, its fields one level down. -/
def readDraft (s : Nat → Shape ι T) : Nat → Value → Except Error (Draft T)
  | n + 1, .object members closed => do
    let d ← (s n).readMembers Draft.empty members
    whenClosed closed d
  | n + 1, .array items closed => (s n).readItems closed Draft.empty (s n).fields items
  | _, _ => .error .malformed

/-- What a field holds, which must be known. -/
def require (s : Shape ι T) (d : Draft T) (i : ι) : Except Error (T i) :=
  match d i with
  | some x => .ok x
  | none => .error (.missingField (s.name i))

end Shape

/-! ### Whole texts -/

/-- Read a text that holds one document and blanks. -/
def decodeText {α : Type u} (reader : Nat → Value → Except Error α) (s : String) :
    Except Error α :=
  match read s.toList with
  | (v, left) =>
    match reader maxNesting v with
    | .error e => .error e
    | .ok a =>
      match left with
      | some rest => if Reader.skipBlanks rest = [] then .ok a else .error .malformed
      | none => .error .malformed

end NestedWorkflow.Json
