import Mathlib.Data.List.Forall2
import NestedWorkflow.Json.Decode
import NestedWorkflow.Proofs.Json.RoundTrip

/-!
# Typed readers on documents that were written

A reader takes a document apart in the order in which it was put together.  Of a record it takes the
members one by one, in any order and with any of them left out
(`Shape.readMembers_written`); a dictionary comes out with the entries that went in
(`dictionary_written`), in whatever order they went in (`dictionary_of_keys`).  If a part cannot be
read then neither can the whole (`Shape.readMembers_error`, `dictionary_error`).
-/

namespace NestedWorkflow

/-! ### Entries, one after the other -/

/-- A key before all others leads nowhere. -/
lemma Entries.get?_eq_none_of_lt {α : Type*} {key : String} {entries : Entries α}
    (h : ∀ e ∈ entries, key < e.1) : Entries.get? key entries = none := by
  cases hget : Entries.get? key entries with
  | none => rfl
  | some a => exact absurd (h _ (Entries.mem_of_get? hget)) (String.lt_irrefl key)

/-- What is put in key by key is found under the keys; other keys lead where they led before. -/
lemma Entries.look_foldl {α σ : Type*} {look : σ → String → Option α} {put : σ → String → α → σ}
    (law : ∀ s key other a, look (put s key a) other = if other = key then some a else look s other)
    {entries : Entries α} (h : entries.InOrder) (s : σ) (key : String) :
    look (entries.foldl (fun s e => put s e.1 e.2) s) key =
      (Entries.get? key entries).or (look s key) := by
  induction entries generalizing s with
  | nil => rfl
  | cons e rest ih =>
    obtain ⟨k, a⟩ := e
    obtain ⟨hfirst, hrest⟩ := List.pairwise_cons.1 h
    rw [List.foldl_cons, ih hrest, law, Entries.get?]
    by_cases hkey : key = k
    · subst hkey
      rw [Entries.get?_eq_none_of_lt hfirst, if_pos rfl, if_pos rfl]
      rfl
    · rw [if_neg hkey, if_neg hkey]

/-- Entries that belong together one by one are found together. -/
lemma Entries.rel_get? {α β : Type*} {R : α → β → Prop} {entries : Entries α} {others : Entries β}
    (h : List.Forall₂ (fun e e' => e.1 = e'.1 ∧ R e.2 e'.2) entries others) (key : String) :
    Option.Rel R (Entries.get? key entries) (Entries.get? key others) := by
  induction h with
  | nil => exact .none
  | @cons e e' _ _ hfirst _ ih =>
    obtain ⟨k, a⟩ := e
    obtain ⟨k', a'⟩ := e'
    obtain ⟨rfl, hrel⟩ := hfirst
    rw [Entries.get?, Entries.get?]
    by_cases hkey : key = k
    · rw [if_pos hkey, if_pos hkey]
      exact .some hrel
    · rw [if_neg hkey, if_neg hkey]
      exact ih

/-- Entries in order make the dictionary that they are the entries of. -/
lemma Dict.foldl_insert {α : Type*} {entries : Entries α} (h : entries.InOrder) :
    entries.foldl (fun d e => d.insert e.1 e.2) Dict.empty = ⟨entries, h⟩ := by
  refine Dict.ext_get? fun key => ?_
  have hlook : Dict.get? (entries.foldl (fun d e => d.insert e.1 e.2) Dict.empty) key =
      (Entries.get? key entries).or (Dict.get? Dict.empty key) :=
    Entries.look_foldl Dict.get?_insert h Dict.empty key
  rw [hlook, Dict.get?_empty, Option.or_none]
  rfl

namespace Json

open Value

/-! ### Scalars -/

/-- A counter of thirty-two bits is read back. -/
lemma counter_nat {n : Nat} (h : n < Word.size32) : counter (.nat n) = .ok n := by
  have hle : n ≤ Word.size32 - 1 := Nat.le_sub_one_of_lt h
  simp only [counter, natUpTo, nat, Numeral.nat?, Decimal.value_digits, Option.isSome_none,
    Bool.false_eq_true, or_self, if_false, if_pos hle]

/-- A value that may be missing is read back, if nothing else is written as null. -/
lemma optional_nullable {α : Type*} {reader : Value → Except Error α} {doc : α → Value}
    {o : Option α} (hnull : ∀ a ∈ o, doc a ≠ .null) (hread : ∀ a ∈ o, reader (doc a) = .ok a) :
    optional reader (nullable (o.map doc)) = .ok o := by
  cases o with
  | none => rfl
  | some a =>
    have hne := hnull a rfl
    rw [Option.map_some, nullable, optional, hread a rfl]
    · rfl
    · exact hne

/-- A text that may be missing is read back. -/
lemma optional_text (o : Option String) : optional text (nullable (o.map .text)) = .ok o := by
  refine optional_nullable (fun s _ => ?_) fun s _ => rfl
  intro hnull
  cases hnull

/-- Null for nothing, and otherwise what spells the value. -/
inductive OrNull {α : Type*} (Spells : α → Value → Prop) : Option α → Value → Prop
  | null : OrNull Spells none .null
  | some {a : α} {v : Value} (h : Spells a v) : OrNull Spells (some a) v

/-- A value that may be missing is read back in all its spellings, if null is none of them. -/
lemma optional_orNull {α : Type*} {reader : Value → Except Error α} {Spells : α → Value → Prop}
    {o : Option α} {v : Value} (hnull : ∀ a, ¬ Spells a .null)
    (hread : ∀ a v, Spells a v → reader v = .ok a) (h : OrNull Spells o v) :
    optional reader v = .ok o := by
  cases h with
  | null => rfl
  | @some a _ h =>
    rw [optional, hread a v h]
    · rfl
    · rintro rfl
      exact hnull a h

/-! ### Lists -/

/-- Items that are read back are collected one by one. -/
lemma readAll_written {α : Type*} {reader : Value → Except Error α} {doc : α → Value} {as : List α}
    (h : ∀ a ∈ as, reader (doc a) = .ok a) : readAll reader (as.map doc) = .ok as := by
  induction as with
  | nil => rfl
  | cons a as ih =>
    obtain ⟨ha, has⟩ := List.forall_mem_cons.1 h
    rw [List.map_cons, readAll, ha, ih has]

/-- A list is read back from an array that has an item for each of its members. -/
theorem list_written {α : Type*} {reader : Nat → Value → Except Error α} {n : Nat}
    {doc : α → Value} {as : List α} (h : ∀ a ∈ as, reader n (doc a) = .ok a) :
    list reader (n + 1) (.list (as.map doc)) = .ok as := by
  rw [Value.list, list, readAll_written h]
  rfl

/-! ### Dictionaries -/

section Dictionaries

variable {α : Type*} {reader : Value → Except Error α} {doc : α → Value} {entries : Entries α}

/-- The members of an object, one for each entry. -/
abbrev entryMembers (doc : α → Value) (entries : Entries α) : List (String × Value) :=
  entries.map fun e => (e.1, doc e.2)

/-- Members are read exactly if each value is read, and then the values are put in one by one. -/
lemma readInto_eq_ok_iff {members : List (String × Value)} {d d' : Dict α} :
    readInto reader d (written members) = .ok d' ↔ ∃ entries : Entries α,
      List.Forall₂ (fun m e => m.1 = e.1 ∧ reader m.2 = .ok e.2) members entries ∧
        entries.foldl (fun d e => d.insert e.1 e.2) d = d' := by
  induction members generalizing d with
  | nil => simp [written, readInto]
  | cons m members ih =>
    obtain ⟨key, v⟩ := m
    rw [written, List.map_cons, readInto]
    cases hv : reader v with
    | error err => simp [List.forall₂_cons_left_iff, hv]
    | ok a =>
      simp only
      rw [ih]
      constructor
      · rintro ⟨entries, hread, hfold⟩
        exact ⟨(key, a) :: entries, .cons ⟨rfl, hv⟩ hread, hfold⟩
      · rintro ⟨entries, hread, hfold⟩
        obtain ⟨⟨_, a'⟩, rest, ⟨rfl, ha⟩, hrest, rfl⟩ := List.forall₂_cons_left_iff.1 hread
        obtain rfl : a = a' := Except.ok.inj (hv.symm.trans ha)
        exact ⟨rest, hrest, hfold⟩

/-- Values that are read back are put in one by one. -/
lemma readInto_written (h : ∀ e ∈ entries, reader (doc e.2) = .ok e.2) (d : Dict α) :
    readInto reader d (written (entryMembers doc entries)) =
      .ok (entries.foldl (fun d e => d.insert e.1 e.2) d) := by
  refine readInto_eq_ok_iff.2 ⟨entries, ?_, rfl⟩
  rw [List.forall₂_map_left_iff, List.forall₂_same]
  exact fun e he => ⟨rfl, h e he⟩

end Dictionaries

/-- Members that come in any order are put in under their keys. -/
lemma exists_readInto_eq_ok {α : Type*} {reader : Value → Except Error α} {doc : String → Value}
    {keys : List String} {d : Dict α}
    (h : ∀ key ∈ keys, ∃ a, d.get? key = some a ∧ reader (doc key) = .ok a) (d₀ : Dict α) :
    ∃ d', readInto reader d₀ (written (keys.map fun key => (key, doc key))) = .ok d' ∧
      ∀ key, d'.get? key = if key ∈ keys then d.get? key else d₀.get? key := by
  induction keys generalizing d₀ with
  | nil => exact ⟨d₀, rfl, fun key => by rw [if_neg List.not_mem_nil]⟩
  | cons first keys ih =>
    obtain ⟨⟨a, hget, hread⟩, hkeys⟩ := List.forall_mem_cons.1 h
    obtain ⟨d', hrest, hlook⟩ := ih hkeys (d₀.insert first a)
    refine ⟨d', ?_, fun key => ?_⟩
    · rw [List.map_cons, written, List.map_cons, readInto, hread]
      exact hrest
    · rw [hlook, Dict.get?_insert]
      by_cases hmem : key ∈ keys
      · rw [if_pos hmem, if_pos (List.mem_cons_of_mem first hmem)]
      · by_cases hkey : key = first
        · subst hkey
          rw [if_neg hmem, if_pos rfl, if_pos List.mem_cons_self, hget]
        · rw [if_neg hmem, if_neg hkey, if_neg (by simp [hkey, hmem])]

/-- An object that is closed is read by putting in its members. -/
lemma dictionary_record {α : Type*} {reader : Nat → Value → Except Error α} {n : Nat}
    (members : List (String × Value)) :
    dictionary reader (n + 1) (.record members) =
      readInto (reader n) Dict.empty (written members) := by
  rw [record, dictionary]
  cases readInto (reader n) Dict.empty (written members) <;> rfl

/-- A dictionary is read back from an object that has a member for each key, in any order. -/
theorem dictionary_of_keys {α : Type*} {reader : Nat → Value → Except Error α} {n : Nat}
    {doc : String → Value} {keys : List String} {d : Dict α}
    (hkeys : ∀ key, key ∈ keys ↔ (d.get? key).isSome)
    (h : ∀ key a, d.get? key = some a → reader n (doc key) = .ok a) :
    dictionary reader (n + 1) (.record (keys.map fun key => (key, doc key))) = .ok d := by
  have hall : ∀ key ∈ keys, ∃ a, d.get? key = some a ∧ reader n (doc key) = .ok a := by
    intro key hkey
    obtain ⟨a, ha⟩ := Option.isSome_iff_exists.1 ((hkeys key).1 hkey)
    exact ⟨a, ha, h key a ha⟩
  obtain ⟨d', hread, hlook⟩ := exists_readInto_eq_ok hall Dict.empty
  obtain rfl : d' = d := by
    refine Dict.ext_get? fun key => (hlook key).trans ?_
    by_cases hkey : key ∈ keys
    · rw [if_pos hkey]
    · rw [if_neg hkey, Dict.get?_empty, Option.not_isSome_iff_eq_none.1 (mt (hkeys key).2 hkey)]
  exact (dictionary_record _).trans hread

/-- All values of a dictionary that was read have been read. -/
theorem exists_of_dictionary_eq_ok {α : Type*} {reader : Nat → Value → Except Error α} {n : Nat}
    {members : List (String × Value)} {d : Dict α}
    (h : dictionary reader (n + 1) (.record members) = .ok d) {m : String × Value}
    (hm : m ∈ members) : ∃ a, reader n m.2 = .ok a := by
  rw [dictionary_record, readInto_eq_ok_iff] at h
  obtain ⟨entries, hread, -⟩ := h
  obtain ⟨k, hk, rfl⟩ := List.getElem_of_mem hm
  have hk' : k < entries.length := hread.length_eq ▸ hk
  exact ⟨entries[k].2, (hread.get hk hk').2⟩

/-- A dictionary is read back from an object that has a member for each entry. -/
theorem dictionary_written {α : Type*} {reader : Nat → Value → Except Error α} {n : Nat}
    {doc : α → Value} {entries : Entries α} (horder : entries.InOrder)
    (h : ∀ e ∈ entries, reader n (doc e.2) = .ok e.2) :
    dictionary reader (n + 1) (.record (entryMembers doc entries)) = .ok ⟨entries, horder⟩ := by
  have hread := readInto_written h Dict.empty
  rw [Dict.foldl_insert horder] at hread
  exact (dictionary_record _).trans hread

/-- A dictionary that was read leads each key to what was read there. -/
theorem rel_get?_of_dictionary_eq_ok {α β : Type*} {reader : Nat → Value → Except Error β} {n : Nat}
    {doc : α → Value} {entries : Entries α} (horder : entries.InOrder) {d : Dict β}
    (h : dictionary reader (n + 1) (.record (entryMembers doc entries)) = .ok d) (key : String) :
    Option.Rel (fun a b => reader n (doc a) = .ok b) (Entries.get? key entries) (d.get? key) := by
  rw [dictionary_record, readInto_eq_ok_iff] at h
  obtain ⟨others, hothers, rfl⟩ := h
  rw [List.forall₂_map_left_iff] at hothers
  have hkeys : entries.map Prod.fst = others.map Prod.fst := by
    rw [← List.forall₂_eq_eq_eq, List.forall₂_map_left_iff, List.forall₂_map_right_iff]
    exact hothers.imp fun _ _ he => he.1
  have horder' : others.InOrder := by
    rw [Entries.InOrder, ← List.pairwise_map (f := Prod.fst), ← hkeys]
    exact List.pairwise_map.2 horder
  rw [Dict.foldl_insert horder']
  exact Entries.rel_get? hothers key

/-- A dictionary with a value that cannot be read is refused. -/
theorem dictionary_error {α : Type*} {reader : Nat → Value → Except Error α} {n : Nat}
    {doc : α → Value} {entries : Entries α} {e : String × α} (he : e ∈ entries)
    (hfail : ∃ err, reader n (doc e.2) = .error err) :
    ∃ err, dictionary reader (n + 1) (.record (entryMembers doc entries)) = .error err := by
  cases hread : dictionary reader (n + 1) (.record (entryMembers doc entries)) with
  | error err => exact ⟨err, rfl⟩
  | ok d =>
    obtain ⟨a, ha⟩ := exists_of_dictionary_eq_ok hread (List.mem_map_of_mem he)
    obtain ⟨err, herr⟩ := hfail
    cases ha.symm.trans herr

/-! ### Records -/

namespace Draft

variable {ι : Type} {T : ι → Type}

/-- Everything is known but for fields that may be left out. -/
def Tells (d : Draft T) (x : (i : ι) → T i) (MayOmit : ι → Prop) : Prop :=
  ∀ i, d i = some (x i) ∨ d i = none ∧ MayOmit i

variable {d : Draft T} {x : (i : ι) → T i} {MayOmit : ι → Prop} {i : ι}

/-- What may not be left out is known. -/
lemma Tells.eq_some (h : d.Tells x MayOmit) (hi : ¬ MayOmit i) : d i = some (x i) :=
  (h i).resolve_right fun hmissing => hi hmissing.2

/-- What was left out is known by default. -/
lemma Tells.getD (h : d.Tells x MayOmit) {y : T i} (hdefault : MayOmit i → x i = y) :
    (d i).getD y = x i := by
  rcases h i with hi | ⟨hi, homit⟩
  · rw [hi, Option.getD_some]
  · rw [hi, Option.getD_none, hdefault homit]

end Draft

namespace Shape

variable {ι : Type} [DecidableEq ι] {T : ι → Type}

/-- Every field is listed once and is found by its name. -/
structure Proper (s : Shape ι T) : Prop where
  mem_fields : ∀ i, i ∈ s.fields
  nodup : s.fields.Nodup
  field?_name : ∀ i, s.field? (s.name i) = some i

/-- Members for some of the fields. -/
abbrev fieldMembers (s : Shape ι T) (doc : ι → Value) (is : List ι) : List (String × Value) :=
  is.map fun i => (s.name i, doc i)

variable {s : Shape ι T} {doc : ι → Value} {is : List ι}

/-- Members whose values are read back are all taken in, in whatever order they come. -/
theorem readMembers_written {x : (i : ι) → T i} (hs : s.Proper) (hnodup : is.Nodup)
    (h : ∀ i ∈ is, s.reader i (doc i) = .ok (x i)) {d : Draft T} (hd : ∀ i ∈ is, d i = none) :
    s.readMembers d (written (s.fieldMembers doc is)) =
      .ok fun i => if i ∈ is then some (x i) else d i := by
  induction is generalizing d with
  | nil => simp [written, readMembers]
  | cons i is ih =>
    obtain ⟨hi, his⟩ := List.forall_mem_cons.1 h
    obtain ⟨hdi, hdis⟩ := List.forall_mem_cons.1 hd
    obtain ⟨hnew, hnodup⟩ := List.nodup_cons.1 hnodup
    have hset : ∀ j ∈ is, d.set i (x i) j = none := by
      rintro j hj
      have hne : i ≠ j := by
        rintro rfl
        exact hnew hj
      rw [Draft.set_of_ne _ _ hne, hdis j hj]
    rw [fieldMembers, List.map_cons, written, List.map_cons, readMembers]
    simp only [hs.field?_name, hdi, hi, Option.isSome_none, Bool.false_eq_true, if_false]
    rw [ih hnodup his hset]
    congr 1
    funext j
    by_cases hj : j = i
    · subst hj
      simp [hnew]
    · have hset : d.set i (x i) j = d j := Draft.set_of_ne _ _ fun h => hj h.symm
      simp [hj, hset]

/-- What was taken in has been read from the members, and nothing else is known. -/
theorem readMembers_eq_ok {d d' : Draft T} (hs : s.Proper) (hnodup : is.Nodup)
    (h : s.readMembers d (written (s.fieldMembers doc is)) = .ok d') :
    (∀ i ∈ is, ∃ x, s.reader i (doc i) = .ok x ∧ d' i = some x) ∧ ∀ i ∉ is, d' i = d i := by
  induction is generalizing d with
  | nil =>
    cases h
    exact ⟨by simp, fun _ _ => rfl⟩
  | cons i is ih =>
    obtain ⟨hnew, hnodup⟩ := List.nodup_cons.1 hnodup
    rw [fieldMembers, List.map_cons, written, List.map_cons, readMembers] at h
    simp only [hs.field?_name] at h
    split at h
    · cases h
    · cases hi : s.reader i (doc i) with
      | error err => simp [hi] at h
      | ok x =>
        simp only [hi] at h
        obtain ⟨htaken, hothers⟩ := ih hnodup h
        refine ⟨List.forall_mem_cons.2 ⟨⟨x, hi, ?_⟩, htaken⟩, fun j hj => ?_⟩
        · rw [hothers i hnew, Draft.set_self]
        · obtain ⟨hne, hj⟩ := not_or.1 (mt List.mem_cons.2 hj)
          rw [hothers j hj, Draft.set_of_ne _ _ fun heq => hne heq.symm]

/-- If the value of one member cannot be read then neither can the record. -/
theorem readMembers_error (hs : s.Proper) {i : ι} (hi : i ∈ is)
    (hfail : ∃ err, s.reader i (doc i) = .error err) (d : Draft T) :
    ∃ err, s.readMembers d (written (s.fieldMembers doc is)) = .error err := by
  induction is generalizing d with
  | nil => cases hi
  | cons j is ih =>
    rw [fieldMembers, List.map_cons, written, List.map_cons, readMembers]
    simp only [hs.field?_name]
    split
    · exact ⟨_, rfl⟩
    · cases hread : s.reader j (doc j) with
      | error err => exact ⟨err, rfl⟩
      | ok a =>
        rcases List.mem_cons.1 hi with rfl | hi
        · obtain ⟨err, herr⟩ := hfail
          rw [hread] at herr
          cases herr
        · exact ih hi _

variable {shape : Nat → Shape ι T} {n : Nat}

/-- A record that is closed is read by taking in its members. -/
lemma readDraft_record (members : List (String × Value)) :
    readDraft shape (n + 1) (.record members) =
      (shape n).readMembers Draft.empty (written members) := by
  rw [record, readDraft]
  cases (shape n).readMembers Draft.empty (written members) <;> rfl

/-- A record with some of the fields is read back, in whatever order they come. -/
theorem exists_readDraft_eq_ok {x : (i : ι) → T i} {MayOmit : ι → Prop} (hs : (shape n).Proper)
    (hnodup : is.Nodup) (homit : ∀ i ∉ is, MayOmit i)
    (h : ∀ i, (shape n).reader i (doc i) = .ok (x i)) :
    ∃ d : Draft T, readDraft shape (n + 1) (.record ((shape n).fieldMembers doc is)) = .ok d ∧
      d.Tells x MayOmit := by
  refine ⟨_, (readDraft_record _).trans
    (readMembers_written hs hnodup (fun i _ => h i) fun _ _ => rfl), fun i => ?_⟩
  by_cases hi : i ∈ is
  · exact .inl (if_pos hi)
  · exact .inr ⟨if_neg hi, homit i hi⟩

/-- A record whose fields are all written, each in its place, is read back. -/
theorem readDraft_written {x : (i : ι) → T i} (hs : (shape n).Proper)
    (h : ∀ i, (shape n).reader i (doc i) = .ok (x i)) :
    readDraft shape (n + 1) (.record ((shape n).fieldMembers doc (shape n).fields)) =
      .ok fun i => some (x i) := by
  obtain ⟨d, hread, hd⟩ : ∃ d : Draft T, readDraft shape (n + 1)
      (.record ((shape n).fieldMembers doc (shape n).fields)) = .ok d ∧ d.Tells x fun _ => False :=
    exists_readDraft_eq_ok hs hs.nodup (fun i hi => hi (hs.mem_fields i)) h
  obtain rfl : d = fun i => some (x i) := funext fun i => hd.eq_some id
  exact hread

/-- A record with a field that cannot be read is refused. -/
theorem readDraft_error (hs : (shape n).Proper) {i : ι}
    (hfail : ∃ err, (shape n).reader i (doc i) = .error err) :
    ∃ err, readDraft shape (n + 1)
      (.record ((shape n).fieldMembers doc (shape n).fields)) = .error err := by
  obtain ⟨err, hread⟩ := readMembers_error hs (hs.mem_fields i) hfail Draft.empty
  exact ⟨err, (readDraft_record _).trans hread⟩

end Shape

/-! ### Whole texts -/

section Texts

variable {α : Type*} {reader : Nat → Value → Except Error α} {v : Value}

/-- Reading the text of a document is reading the document. -/
theorem decodeText_toText (hv : v.Writable) :
    decodeText reader v.toText = reader maxNesting v := by
  rw [decodeText, hv.read_toText]
  simp only
  cases reader maxNesting v with
  | error err => rfl
  | ok a => rfl

end Texts

end Json

end NestedWorkflow
