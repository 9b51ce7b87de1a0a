import NestedWorkflow.Proofs.Json.Token

/-!
# Documents are read back from their compact form

A document is read back from its text (`Value.Writable.read_toText`), whatever texts it holds and
however deep it nests.  Documents are taken here as programs write them (`Value.Writable`):
integers, texts, and arrays and objects that are closed.

The proof is by induction on the document.  What each part promises (`Value.ReadsBack`) leaves the
text behind it open, as long as that cannot be taken for the rest of a number, and asks for fuel in
proportion to the length of the part.
-/

namespace NestedWorkflow.Json

open Reader

namespace Value

/-- Documents as they are written: integers are the only numbers, and everything is closed. -/
inductive Writable : Value → Prop
  | null : Writable .null
  | bool (b : Bool) : Writable (.bool b)
  | number {n : Numeral} (h : n.IsInteger) : Writable (.number n)
  | text (s : String) : Writable (.text s)
  | list {items : List Value} (h : ∀ v ∈ items, Writable v) : Writable (.list items)
  | record {members : List (String × Value)} (h : ∀ m ∈ members, Writable m.2) :
      Writable (.record members)

/-- Natural numbers can be written. -/
lemma writable_nat (n : Nat) : (nat n).Writable := .number ⟨n, rfl⟩

/-- A value that may be missing can be written, there or not. -/
lemma writable_nullable {α : Type*} {doc : α → Value} (h : ∀ a, (doc a).Writable) (o : Option α) :
    (nullable (o.map doc)).Writable := by
  cases o with
  | none => exact .null
  | some a => exact h a

/-- The document is read back from its compact form, whatever text follows. -/
def ReadsBack (v : Value) : Prop :=
  ∀ {fuel : Nat} {rest : List Char}, 2 * v.render.length ≤ fuel → BehindNumber rest →
    readValue fuel (v.render ++ rest) = (v, some rest)

/-! ### Where tokens start and end -/

/-- There is nothing to skip in front of a token. -/
lemma skipBlanks_cons {c : Char} {cs : List Char} (h : isBlank c = false) :
    skipBlanks (c :: cs) = c :: cs := by
  rw [skipBlanks, List.dropWhile_cons_of_neg (by simp [h])]

/-- What ends an array or object, or goes on with it, does not belong to a number. -/
lemma behindNumber_cons {c : Char} (h : c ∈ [',', ']', '\x7d']) (cs : List Char) :
    BehindNumber (c :: cs) := by
  intro d hd
  obtain rfl := Option.some.inj hd
  simp only [List.mem_cons, List.not_mem_nil, or_false] at h
  rcases h with rfl | rfl | rfl
  · exact ⟨by decide, by decide, by decide, by decide⟩
  · exact ⟨by decide, by decide, by decide, by decide⟩
  · exact ⟨by decide, by decide, by decide, by decide⟩

/-- A document starts with a token that is no closing bracket. -/
lemma Writable.exists_render_eq_cons {v : Value} (h : v.Writable) :
    ∃ c cs, v.render = c :: cs ∧ isBlank c = false ∧ c ≠ ']' := by
  cases h with
  | null => exact ⟨'n', ['u', 'l', 'l'], rfl, by decide, by decide⟩
  | bool b =>
    cases b with
    | true => exact ⟨'t', ['r', 'u', 'e'], rfl, by decide, by decide⟩
    | false => exact ⟨'f', ['a', 'l', 's', 'e'], rfl, by decide, by decide⟩
  | number hn =>
    obtain ⟨c, cs, hrender, hc⟩ := Reader.exists_render_eq_cons hn
    refine ⟨c, cs, hrender, ?_⟩
    rcases hc with rfl | hc
    · exact ⟨by decide, by decide⟩
    · have hblank : isBlank c = false := by
        simp only [isBlank, Bool.or_eq_false_iff, beq_eq_false_iff_ne]
        exact ⟨⟨⟨ne_of_isDigit hc (by decide), ne_of_isDigit hc (by decide)⟩,
          ne_of_isDigit hc (by decide)⟩, ne_of_isDigit hc (by decide)⟩
      exact ⟨hblank, ne_of_isDigit hc (by decide)⟩
  | text s => exact ⟨'"', _, rfl, by decide, by decide⟩
  | list _ => exact ⟨'[', _, rfl, by decide, by decide⟩
  | record _ => exact ⟨'\x7b', _, rfl, by decide, by decide⟩

/-! ### Values without parts -/

/-- Nothing is read back as nothing. -/
lemma readsBack_null : ReadsBack .null := by
  intro fuel rest hfuel _
  cases fuel with
  | zero => cases hfuel
  | succ fuel => rfl

/-- Truth values are read back. -/
lemma readsBack_bool (b : Bool) : ReadsBack (.bool b) := by
  intro fuel rest hfuel _
  cases fuel with
  | zero => cases b <;> cases hfuel
  | succ fuel => cases b <;> rfl

/-- Integers are read back. -/
lemma readsBack_number {n : Numeral} (hn : n.IsInteger) : ReadsBack (.number n) := by
  intro fuel rest hfuel hrest
  obtain ⟨c, cs, hrender, hc⟩ := Reader.exists_render_eq_cons hn
  have hblank : isBlank c = false := by
    obtain ⟨d, ds, hds, hblank, -⟩ := (Writable.number hn).exists_render_eq_cons
    obtain rfl := (List.cons.inj (hds.symm.trans hrender)).1
    exact hblank
  have hne : ∀ d ds, Decimal.isDigit d = false → d ≠ '-' → c :: (cs ++ rest) ≠ d :: ds := by
    rintro d ds hd hsign heq
    obtain rfl := (List.cons.inj heq).1
    rcases hc with rfl | hc
    · exact hsign rfl
    · exact ne_of_isDigit hc hd rfl
  have hread : numeral? (c :: (cs ++ rest)) = some (n, rest) := by
    have hread := numeral?_render hn hrest
    rw [hrender] at hread
    exact hread
  have htext : (number n).render ++ rest = c :: (cs ++ rest) := by
    rw [render, hrender]
    rfl
  have hlength : 0 < (number n).render.length := by
    rw [render, hrender]
    exact Nat.succ_pos _
  cases fuel with
  | zero => omega
  | succ fuel =>
    rw [htext, readValue, skipBlanks_cons hblank]
    split
    · rename_i heq
      exact absurd heq (hne 'n' _ (by decide) (by decide))
    · rename_i heq
      exact absurd heq (hne 't' _ (by decide) (by decide))
    · rename_i heq
      exact absurd heq (hne 'f' _ (by decide) (by decide))
    · rename_i heq
      exact absurd heq (hne '"' _ (by decide) (by decide))
    · rename_i heq
      exact absurd heq (hne '[' _ (by decide) (by decide))
    · rename_i heq
      exact absurd heq (hne '\x7b' _ (by decide) (by decide))
    · rw [hread]

/-- Texts are read back. -/
lemma readsBack_text (s : String) : ReadsBack (.text s) := by
  intro fuel rest hfuel _
  have htext : (text s).render ++ rest = '"' :: (escapeAll s.toList ++ '"' :: rest) := by
    simp [text, render, quote?, quote]
  cases fuel with
  | zero => cases hfuel
  | succ fuel =>
    rw [htext, readValue, skipBlanks_cons (by decide)]
    simp only [readString_escapeAll]
    rfl

/-! ### Arrays -/

@[simp] lemma renderItems_singleton (v : Value) : renderItems [v] = v.render := by
  simp [renderItems]

@[simp] lemma renderItems_cons_cons (v w : Value) (items : List Value) :
    renderItems (v :: w :: items) = v.render ++ ',' :: renderItems (w :: items) := by
  simp [renderItems]

/-- Items are read back up to the closing bracket. -/
lemma readItems_renderItems {items : List Value} (hne : items ≠ [])
    (h : ∀ v ∈ items, v.ReadsBack) {fuel : Nat} {rest : List Char}
    (hfuel : 2 * (renderItems items).length + 1 ≤ fuel) :
    readItems fuel (renderItems items ++ ']' :: rest) = (items, some rest) := by
  induction items generalizing fuel with
  | nil => exact absurd rfl hne
  | cons v items ih =>
    obtain ⟨hv, hitems⟩ := List.forall_mem_cons.1 h
    cases fuel with
    | zero => omega
    | succ fuel =>
      cases items with
      | nil =>
        rw [renderItems_singleton] at hfuel ⊢
        have hread := hv (by omega : 2 * v.render.length ≤ fuel)
          (behindNumber_cons (by simp : ']' ∈ [',', ']', '\x7d']) rest)
        rw [readItems, hread]
        simp only [skipBlanks_cons (by decide : isBlank ']' = false)]
      | cons w items =>
        rw [renderItems_cons_cons, List.length_append, List.length_cons] at hfuel
        rw [renderItems_cons_cons, List.append_assoc, List.cons_append]
        have hread := hv (by omega : 2 * v.render.length ≤ fuel)
          (behindNumber_cons (by simp : ',' ∈ [',', ']', '\x7d'])
            (renderItems (w :: items) ++ ']' :: rest))
        have hmore := ih (by simp) hitems
          (by omega : 2 * (renderItems (w :: items)).length + 1 ≤ fuel)
        rw [readItems, hread]
        simp only [skipBlanks_cons (by decide : isBlank ',' = false), hmore]

/-- Items start like the first of them. -/
lemma exists_renderItems_eq_cons {items : List Value} (hne : items ≠ [])
    (h : ∀ v ∈ items, v.Writable) :
    ∃ c cs, renderItems items = c :: cs ∧ isBlank c = false ∧ c ≠ ']' := by
  obtain ⟨v, items, rfl⟩ := List.exists_cons_of_ne_nil hne
  obtain ⟨c, cs, hrender, hc⟩ := (h v List.mem_cons_self).exists_render_eq_cons
  cases items with
  | nil => exact ⟨c, cs, (renderItems_singleton v).trans hrender, hc⟩
  | cons w items =>
    rw [renderItems_cons_cons, hrender]
    exact ⟨c, _, rfl, hc⟩

/-- Arrays are read back if their items are. -/
lemma readsBack_list {items : List Value} (hitems : ∀ v ∈ items, v.Writable)
    (h : ∀ v ∈ items, v.ReadsBack) : ReadsBack (.list items) := by
  intro fuel rest hfuel _
  have htext : (list items).render ++ rest = '[' :: (renderItems items ++ ']' :: rest) := by
    simp [list, render]
  have hlength : (list items).render.length = (renderItems items).length + 2 := by
    simp [list, render]
  cases fuel with
  | zero => omega
  | succ fuel =>
    rw [htext, readValue, skipBlanks_cons (by decide)]
    by_cases hne : items = []
    · subst hne
      rfl
    · obtain ⟨c, cs, hrender, hblank, hc⟩ := exists_renderItems_eq_cons hne hitems
      have hfuel : 2 * (renderItems items).length + 1 ≤ fuel := by omega
      have hread : readItems fuel (renderItems items ++ ']' :: rest) = (items, some rest) :=
        readItems_renderItems hne h hfuel
      rw [hrender, List.cons_append] at hread ⊢
      simp only [skipBlanks_cons hblank]
      split
      · rename_i heq
        exact absurd (List.cons.inj heq).1 hc
      · rw [hread]
        rfl

/-! ### Objects -/

/-- Members as they are written. -/
abbrev written (members : List (String × Value)) : List (Option String × Value) :=
  members.map fun m => (some m.1, m.2)

@[simp] lemma renderMembers_singleton (key : String) (v : Value) :
    renderMembers (written [(key, v)]) = quote key ++ ':' :: v.render := by
  simp [renderMembers, quote?]

@[simp] lemma renderMembers_cons_cons (key : String) (v : Value) (m : String × Value)
    (members : List (String × Value)) :
    renderMembers (written ((key, v) :: m :: members)) =
      quote key ++ ':' :: (v.render ++ ',' :: renderMembers (written (m :: members))) := by
  simp [renderMembers, quote?]

/-- A key and what follows it. -/
lemma quote_append (key : String) (cs : List Char) :
    quote key ++ cs = '"' :: (escapeAll key.toList ++ '"' :: cs) := by
  simp [quote]

/-- Behind a comma, reading goes on. -/
lemma readMembers_quote_comma (key : String) {v : Value} (hv : v.ReadsBack) {fuel : Nat}
    (hfuel : 2 * v.render.length ≤ fuel) (cs : List Char) :
    readMembers (fuel + 1) (quote key ++ ':' :: (v.render ++ ',' :: cs)) =
      ((some key, v) :: (readMembers fuel cs).1, (readMembers fuel cs).2) := by
  have hread := hv hfuel (behindNumber_cons (by simp : ',' ∈ [',', ']', '\x7d']) cs)
  rw [quote_append, readMembers, skipBlanks_cons (by decide)]
  simp only [readString_escapeAll, skipBlanks_cons (by decide : isBlank ':' = false), hread,
    skipBlanks_cons (by decide : isBlank ',' = false)]

/-- Behind a closing brace, reading is done. -/
lemma readMembers_quote_brace (key : String) {v : Value} (hv : v.ReadsBack) {fuel : Nat}
    (hfuel : 2 * v.render.length ≤ fuel) (cs : List Char) :
    readMembers (fuel + 1) (quote key ++ ':' :: (v.render ++ '\x7d' :: cs)) =
      ([(some key, v)], some cs) := by
  have hread := hv hfuel (behindNumber_cons (by simp : '\x7d' ∈ [',', ']', '\x7d']) cs)
  rw [quote_append, readMembers, skipBlanks_cons (by decide)]
  simp only [readString_escapeAll, skipBlanks_cons (by decide : isBlank ':' = false), hread,
    skipBlanks_cons (by decide : isBlank '\x7d' = false)]

/-- Members are read back up to the closing brace. -/
lemma readMembers_renderMembers {members : List (String × Value)} (hne : members ≠ [])
    (h : ∀ m ∈ members, m.2.ReadsBack) {fuel : Nat} {rest : List Char}
    (hfuel : 2 * (renderMembers (written members)).length + 1 ≤ fuel) :
    readMembers fuel (renderMembers (written members) ++ '\x7d' :: rest) =
      (written members, some rest) := by
  induction members generalizing fuel with
  | nil => exact absurd rfl hne
  | cons m members ih =>
    obtain ⟨key, v⟩ := m
    have hv : v.ReadsBack := h (key, v) List.mem_cons_self
    have hmembers : ∀ m ∈ members, m.2.ReadsBack :=
      fun m hm => h m (List.mem_cons_of_mem _ hm)
    cases fuel with
    | zero => omega
    | succ fuel =>
      cases members with
      | nil =>
        rw [renderMembers_singleton, List.length_append, List.length_cons] at hfuel
        rw [renderMembers_singleton, List.append_assoc, List.cons_append,
          readMembers_quote_brace key hv (by omega)]
        rfl
      | cons m members =>
        rw [renderMembers_cons_cons, List.length_append, List.length_cons, List.length_append,
          List.length_cons] at hfuel
        have hmore := ih (by simp) hmembers
          (by omega : 2 * (renderMembers (written (m :: members))).length + 1 ≤ fuel)
        rw [renderMembers_cons_cons, List.append_assoc, List.cons_append, List.append_assoc,
          List.cons_append, readMembers_quote_comma key hv (by omega), hmore]
        rfl

/-- Objects are read back if their values are. -/
lemma readsBack_record {members : List (String × Value)} (h : ∀ m ∈ members, m.2.ReadsBack) :
    ReadsBack (.record members) := by
  intro fuel rest hfuel _
  have htext : (record members).render ++ rest =
      '\x7b' :: (renderMembers (written members) ++ '\x7d' :: rest) := by
    simp [record, render]
  have hlength : (record members).render.length = (renderMembers (written members)).length + 2 := by
    simp [record, render]
  cases fuel with
  | zero => omega
  | succ fuel =>
    rw [htext, readValue, skipBlanks_cons (by decide)]
    cases members with
    | nil => rfl
    | cons m members =>
      have hfuel : 2 * (renderMembers (written (m :: members))).length + 1 ≤ fuel := by omega
      have hread : readMembers fuel (renderMembers (written (m :: members)) ++ '\x7d' :: rest) =
          (written (m :: members), some rest) :=
        readMembers_renderMembers (by simp) h hfuel
      obtain ⟨cs, hrender⟩ : ∃ cs, renderMembers (written (m :: members)) = '"' :: cs := by
        cases members with
        | nil => exact ⟨_, renderMembers_singleton m.1 m.2⟩
        | cons m' members => exact ⟨_, renderMembers_cons_cons m.1 m.2 m' members⟩
      rw [hrender, List.cons_append] at hread ⊢
      simp only [skipBlanks_cons (by decide : isBlank '"' = false)]
      split
      · rename_i heq
        exact absurd (List.cons.inj heq).1 (by decide)
      · rw [hread]
        rfl

/-! ### Whole documents -/

/-- Whatever is written is read back. -/
theorem Writable.readsBack {v : Value} (h : v.Writable) : v.ReadsBack := by
  induction h with
  | null => exact readsBack_null
  | bool b => exact readsBack_bool b
  | number hn => exact readsBack_number hn
  | text s => exact readsBack_text s
  | list hitems ih => exact readsBack_list hitems ih
  | record _ ih => exact readsBack_record ih

/-- The text of a document reads as the document, with nothing left. -/
theorem Writable.read_toText {v : Value} (h : v.Writable) :
    read v.toText.toList = (v, some []) := by
  rw [toText, String.toList_ofList, read]
  have hend : BehindNumber [] := by
    rintro c ⟨⟩
  have hread := h.readsBack (by omega : 2 * v.render.length ≤ 2 * v.render.length + 2) hend
  rw [List.append_nil] at hread
  exact hread

end Value

end NestedWorkflow.Json
