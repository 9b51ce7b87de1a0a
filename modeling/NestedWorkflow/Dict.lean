/-!
# Dictionaries in key order

A dictionary with text keys is the list of its entries in strictly increasing key order.  The raw
layer works on entry lists; `Dict` packages such a list with the order proof.  Every finite map then
has exactly one representative, so dictionaries with equal lookups are equal (`Dict.ext_get?`), and
iteration is by key order.
-/

namespace NestedWorkflow

universe u v

/-- Entry lists: pairs of a key and what stands under it. -/
abbrev Entries (α : Type u) := List (String × α)

namespace Entries

variable {α : Type u} {β : Type v}

/-- The keys increase strictly. -/
def InOrder (entries : Entries α) : Prop :=
  entries.Pairwise fun a b => a.1 < b.1

/-- What stands under a key. -/
def get? (key : String) : Entries α → Option α
  | [] => none
  | (k, a) :: rest => if key = k then some a else get? key rest

/-- Put a value under a key, in place of an earlier one or at its place in the order. -/
def insert (key : String) (value : α) : Entries α → Entries α
  | [] => [(key, value)]
  | (k, a) :: rest =>
    if key < k then (key, value) :: (k, a) :: rest
    else if key = k then (key, value) :: rest
    else (k, a) :: insert key value rest

theorem mem_insert {key : String} {value : α} {entries : Entries α} {e : String × α}
    (h : e ∈ insert key value entries) : e = (key, value) ∨ e ∈ entries := by
  induction entries with
  | nil => simpa [insert] using h
  | cons head rest ih =>
    obtain ⟨k, a⟩ := head
    simp only [insert] at h
    split at h
    · simpa using h
    · split at h
      · rcases List.mem_cons.1 h with h | h
        · exact .inl h
        · exact .inr (List.mem_cons_of_mem _ h)
      · rcases List.mem_cons.1 h with h | h
        · exact .inr (h ▸ List.mem_cons_self)
        · rcases ih h with h | h
          · exact .inl h
          · exact .inr (List.mem_cons_of_mem _ h)

theorem inOrder_insert (key : String) (value : α) {entries : Entries α} (h : InOrder entries) :
    InOrder (insert key value entries) := by
  induction entries with
  | nil => simp [insert, InOrder]
  | cons head rest ih =>
    obtain ⟨k, a⟩ := head
    have hk : ∀ e ∈ rest, k < e.1 := (List.pairwise_cons.1 h).1
    have hr : InOrder rest := (List.pairwise_cons.1 h).2
    simp only [insert]
    split
    · rename_i hlt
      refine List.pairwise_cons.2 ⟨fun e he => ?_, h⟩
      rcases List.mem_cons.1 he with rfl | he
      · exact hlt
      · exact String.lt_trans hlt (hk e he)
    · split
      · rename_i heq
        exact List.pairwise_cons.2 ⟨fun e he => heq ▸ hk e he, hr⟩
      · rename_i hlt hne
        refine List.pairwise_cons.2 ⟨fun e he => ?_, ih hr⟩
        rcases mem_insert he with rfl | he
        · grind
        · exact hk e he

theorem get?_insert_self (key : String) (value : α) (entries : Entries α) :
    get? key (insert key value entries) = some value := by
  induction entries with
  | nil => simp [insert, get?]
  | cons head rest ih =>
    obtain ⟨k, a⟩ := head
    simp only [insert]
    split
    · simp [get?]
    · split
      · simp [get?]
      · rename_i hne
        simp [get?, hne, ih]

theorem get?_insert_of_ne {key other : String} (hne : other ≠ key) (value : α)
    (entries : Entries α) : get? other (insert key value entries) = get? other entries := by
  induction entries with
  | nil => simp [insert, get?, hne]
  | cons head rest ih =>
    obtain ⟨k, a⟩ := head
    simp only [insert]
    split
    · simp [get?, hne]
    · split
      · rename_i heq
        subst heq
        simp [get?, hne]
      · simp only [get?, ih]

theorem mem_of_get? {key : String} {value : α} {entries : Entries α}
    (h : get? key entries = some value) : (key, value) ∈ entries := by
  induction entries with
  | nil => simp [get?] at h
  | cons head rest ih =>
    obtain ⟨k, a⟩ := head
    simp only [get?] at h
    split at h
    · rename_i heq
      cases h
      simp [heq]
    · exact List.mem_cons_of_mem _ (ih h)

theorem get?_of_mem {key : String} {value : α} {entries : Entries α} (ho : InOrder entries)
    (h : (key, value) ∈ entries) : get? key entries = some value := by
  induction entries with
  | nil => simp at h
  | cons head rest ih =>
    obtain ⟨k, a⟩ := head
    have hk : ∀ e ∈ rest, k < e.1 := (List.pairwise_cons.1 ho).1
    simp only [get?]
    rcases List.mem_cons.1 h with h | h
    · cases h
      simp
    · have hlt : k < key := hk _ h
      have hne : key ≠ k := fun heq => String.lt_irrefl k (heq ▸ hlt)
      rw [if_neg hne]
      exact ih (List.pairwise_cons.1 ho).2 h

/-- A list in order is determined by what its keys lead to. -/
theorem eq_of_get?_eq {s t : Entries α} (hs : InOrder s) (ht : InOrder t)
    (h : ∀ key, get? key s = get? key t) : s = t := by
  induction s generalizing t with
  | nil =>
    cases t with
    | nil => rfl
    | cons head rest =>
      have := h head.1
      simp [get?] at this
  | cons head rest ih =>
    obtain ⟨k, a⟩ := head
    cases t with
    | nil =>
      have := h k
      simp [get?] at this
    | cons head' rest' =>
      obtain ⟨k', a'⟩ := head'
      have hk : ∀ e ∈ rest, k < e.1 := (List.pairwise_cons.1 hs).1
      have hk' : ∀ e ∈ rest', k' < e.1 := (List.pairwise_cons.1 ht).1
      have hkk : k = k' := by
        have h1 : (k, a) ∈ (k', a') :: rest' := mem_of_get? (by rw [← h k]; simp [get?])
        have h2 : (k', a') ∈ (k, a) :: rest := mem_of_get? (by rw [h k']; simp [get?])
        rcases List.mem_cons.1 h1 with e | e
        · exact congrArg Prod.fst e
        · rcases List.mem_cons.1 h2 with e' | e'
          · exact (congrArg Prod.fst e').symm
          · exact absurd (String.lt_trans (hk' _ e) (hk _ e')) (String.lt_irrefl _)
      subst hkk
      have haa : a = a' := by simpa [get?] using h k
      subst haa
      congr 1
      refine ih (List.pairwise_cons.1 hs).2 (List.pairwise_cons.1 ht).2 fun key => ?_
      by_cases hkey : key = k
      · subst hkey
        have none_of : ∀ l : Entries α, (∀ e ∈ l, key < e.1) → get? key l = none := by
          intro l hl
          cases hg : get? key l with
          | none => rfl
          | some x => exact absurd (hl _ (mem_of_get? hg)) (String.lt_irrefl _)
        rw [none_of rest hk, none_of rest' hk']
      · simpa [get?, hkey] using h key

end Entries

/-- A finite map from texts, kept in key order. -/
structure Dict (α : Type u) where
  /-- The entries, by increasing key. -/
  entries : Entries α
  /-- Keys increase strictly. -/
  inOrder : entries.InOrder

namespace Dict

variable {α : Type u} {β : Type v}

/-- The dictionary without entries. -/
def empty : Dict α := ⟨[], List.Pairwise.nil⟩

instance : Inhabited (Dict α) := ⟨empty⟩

/-- What stands under a key. -/
def get? (d : Dict α) (key : String) : Option α := Entries.get? key d.entries

/-- Put a value under a key, replacing an earlier one. -/
def insert (d : Dict α) (key : String) (value : α) : Dict α :=
  ⟨Entries.insert key value d.entries, Entries.inOrder_insert key value d.inOrder⟩

/-- Later entries replace earlier ones of the same key. -/
def ofList (entries : List (String × α)) : Dict α :=
  entries.foldl (fun d e => d.insert e.1 e.2) empty

/-- The keys, in order. -/
def keys (d : Dict α) : List String := d.entries.map Prod.fst

@[simp] theorem get?_empty (key : String) : (empty : Dict α).get? key = none := rfl

@[simp] theorem get?_insert_self (d : Dict α) (key : String) (value : α) :
    (d.insert key value).get? key = some value :=
  Entries.get?_insert_self key value d.entries

theorem get?_insert_of_ne (d : Dict α) {key other : String} (value : α) (h : other ≠ key) :
    (d.insert key value).get? other = d.get? other :=
  Entries.get?_insert_of_ne h value d.entries

theorem get?_insert (d : Dict α) (key other : String) (value : α) :
    (d.insert key value).get? other = if other = key then some value else d.get? other := by
  by_cases h : other = key
  · subst h
    simp
  · simp [h, get?_insert_of_ne]

theorem ext_entries {d e : Dict α} (h : d.entries = e.entries) : d = e := by
  cases d
  cases e
  cases h
  rfl

/-- Dictionaries that lead every key to the same value are equal. -/
theorem ext_get? {d e : Dict α} (h : ∀ key, d.get? key = e.get? key) : d = e :=
  ext_entries (Entries.eq_of_get?_eq d.inOrder e.inOrder h)

theorem mem_entries_iff {d : Dict α} {key : String} {value : α} :
    (key, value) ∈ d.entries ↔ d.get? key = some value :=
  ⟨Entries.get?_of_mem d.inOrder, Entries.mem_of_get?⟩

instance [DecidableEq α] : DecidableEq (Dict α) := fun d e =>
  if h : d.entries = e.entries then isTrue (ext_entries h)
  else isFalse fun he => h (congrArg entries he)

end Dict

end NestedWorkflow
