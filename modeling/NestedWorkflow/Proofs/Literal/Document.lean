import NestedWorkflow.Literal
import NestedWorkflow.Proofs.Json.Decode

/-!
# Literals are read back from their documents

Named literals are stored as the compact text of one object, and read back as they were
(`LiteralMap.ofBytes?_toText`).  This is so for literals whose numbers are integers of up to
sixty-four bits and whose lists and dictionaries do not nest too deeply (`Literal.Plain`).  Doubles
are left out: they are read here, and never written.
-/

namespace NestedWorkflow

open Json.Value

namespace Literal

/-! ### Documents -/

mutual

/-- The document of a literal.  A double has none. -/
def toJson : Literal → Json.Value
  | .null => .null
  | .bool b => .bool b
  | .int i => .int i
  | .double _ => .broken
  | .text s => .text s
  | .list items => .list (itemDocs items)
  | .dict entries => .record (memberDocs entries)

/-- The documents of the items of a list. -/
def itemDocs : List Literal → List Json.Value
  | [] => []
  | l :: rest => l.toJson :: itemDocs rest

/-- The entries of a dictionary as members of its document. -/
def memberDocs : List (String × Literal) → List (String × Json.Value)
  | [] => []
  | (key, l) :: rest => (key, l.toJson) :: memberDocs rest

end

/-- The items have a document each. -/
lemma itemDocs_eq (items : List Literal) : itemDocs items = items.map toJson := by
  induction items with
  | nil => rw [itemDocs, List.map_nil]
  | cons l items ih => rw [itemDocs, List.map_cons, ih]

/-- The entries have a member each. -/
lemma memberDocs_eq (entries : List (String × Literal)) :
    memberDocs entries = Json.entryMembers toJson entries := by
  induction entries with
  | nil => rw [memberDocs, Json.entryMembers, List.map_nil]
  | cons e entries ih => rw [memberDocs, Json.entryMembers, List.map_cons, ih]

/-! ### Literals that are read back -/

/-- All numbers in the literal are integers of sixty-four bits, with a sign or without, dictionaries
are in key order, and at most so many lists and dictionaries stand inside one another. -/
inductive Plain : Nat → Literal → Prop
  | null (levels : Nat) : Plain levels .null
  | bool (levels : Nat) (b : Bool) : Plain levels (.bool b)
  | int (levels : Nat) {i : Int} (hmin : -(Word.size63 : Int) ≤ i) (hmax : i < Word.size64) :
      Plain levels (.int i)
  | text (levels : Nat) (s : String) : Plain levels (.text s)
  | list {levels : Nat} {items : List Literal} (h : ∀ l ∈ items, Plain levels l) :
      Plain (levels + 1) (.list items)
  | dict {levels : Nat} {entries : List (String × Literal)} (order : Entries.InOrder entries)
      (h : ∀ e ∈ entries, Plain levels e.2) : Plain (levels + 1) (.dict entries)

/-- An integer of sixty-four bits is read back as an integer. -/
lemma ofNumeral?_int {i : Int} (hmin : -(Word.size63 : Int) ≤ i) (hmax : i < Word.size64) :
    ofNumeral? ⟨decide (i < 0), Decimal.digits i.natAbs, none, none⟩ = some (.int i) := by
  simp only [ofNumeral?, Option.isSome_none, Bool.false_eq_true, or_self, if_false,
    Decimal.value_digits]
  by_cases hneg : i < 0
  · have hsmall : 0 < i.natAbs ∧ i.natAbs ≤ Word.size63 := by omega
    have habs : -(i.natAbs : Int) = i := by omega
    rw [decide_eq_true hneg, if_pos rfl, if_pos hsmall, habs]
  · have hsmall : i.natAbs < Word.size64 := by omega
    have habs : (i.natAbs : Int) = i := by omega
    rw [decide_eq_false hneg, if_neg Bool.false_ne_true, if_pos hsmall, habs]

/-- A plain literal is read back if there is nesting left for its levels. -/
theorem ofJson_toJson {levels : Nat} {l : Literal} (h : l.Plain levels) :
    ofJson levels l.toJson = .ok l := by
  induction h with
  | null levels => cases levels <;> rfl
  | bool levels b => cases levels <;> rfl
  | int levels hmin hmax =>
    have hread := ofNumeral?_int hmin hmax
    cases levels with
    | zero => simp only [toJson, Json.Value.int, ofJson, hread]
    | succ levels => simp only [toJson, Json.Value.int, ofJson, hread]
  | text levels s => cases levels <;> rfl
  | @list levels items _ ih =>
    rw [toJson, itemDocs_eq, Json.Value.list, ofJson, Json.readAll_written ih]
    rfl
  | @dict levels entries order _ ih =>
    have hread := Json.readInto_written ih Dict.empty
    rw [Dict.foldl_insert order] at hread
    rw [toJson, memberDocs_eq, record, ofJson, hread]
    rfl

/-- The document of a plain literal can be written. -/
lemma Plain.writable {levels : Nat} {l : Literal} (h : l.Plain levels) : l.toJson.Writable := by
  induction h with
  | null _ => exact .null
  | bool _ b => exact .bool b
  | @int _ i _ _ => exact .number ⟨i.natAbs, rfl⟩
  | text _ s => exact .text s
  | list _ ih =>
    rw [toJson, itemDocs_eq]
    exact .list (List.forall_mem_map.2 ih)
  | dict _ _ ih =>
    rw [toJson, memberDocs_eq]
    exact .record (List.forall_mem_map.2 ih)

end Literal

/-! ### Named literals -/

namespace LiteralMap

/-- The document of named literals. -/
def toJson (m : LiteralMap) : Json.Value := .record (Json.entryMembers Literal.toJson m.entries)

/-- The compact text of named literals. -/
def toText (m : LiteralMap) : String := m.toJson.toText

/-- Named literals are read back from the bytes of their text if no more than 126 lists and
dictionaries stand inside one another below the names. -/
theorem ofBytes?_toText {m : LiteralMap} (h : ∀ e ∈ m.entries, e.2.Plain 126) :
    ofBytes? m.toText.toUTF8 = some m := by
  have hbytes : String.fromUTF8? m.toText.toUTF8 = some m.toText := dif_pos m.toText.isValidUTF8
  have hwritable : m.toJson.Writable :=
    .record (List.forall_mem_map.2 fun e he => (h e he).writable)
  have hread : Json.decodeText ofJson m.toText = .ok m := by
    rw [toText, Json.decodeText_toText hwritable]
    exact Json.dictionary_written m.inOrder fun e he => Literal.ofJson_toJson (h e he)
  simp only [ofBytes?, hbytes, hread]
  rfl

end LiteralMap

end NestedWorkflow
