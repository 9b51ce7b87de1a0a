import NestedWorkflow.Json.Reader
import NestedWorkflow.Proofs.Decimal.Digits

/-!
# Strings and numbers are read back

Every text can be written as a string and is read back as it was (`Reader.readString_escapeAll`),
control characters included.  A number without point and exponent is read back if what follows it
cannot belong to it (`Reader.numeral?_render`).
-/

namespace NestedWorkflow.Json

open Value

namespace Reader

/-! ### Strings -/

/-- An escaped unit that is no surrogate spells its character. -/
lemma assemble_unit {n : Nat} (h : n < 0xd800) (ps : List Piece) :
    assemble (.unit n :: ps) = (assemble ps).map (Char.ofNat n :: ·) := by
  have hhigh : isHighSurrogate n = false := by
    simp only [isHighSurrogate, Bool.and_eq_false_iff, decide_eq_false_iff_not]
    omega
  have hlow : isLowSurrogate n = false := by
    simp only [isLowSurrogate, Bool.and_eq_false_iff, decide_eq_false_iff_not]
    omega
  match ps with
  | [] => simp [assemble, hhigh, hlow]
  | .char c :: ps => simp [assemble, hhigh, hlow]
  | .unit m :: ps => simp [assemble, hhigh, hlow]

/-- The digits of an escaped control character spell its number. -/
lemma unit?_escapeDigit {n : Nat} (h : n < 0x20) :
    unit? '0' '0' (escapeDigit (n / 16)) (escapeDigit (n % 16)) = some n := by
  have hcases : ∀ m < 0x20,
      unit? '0' '0' (escapeDigit (m / 16)) (escapeDigit (m % 16)) = some m := by decide
  exact hcases n h

/-- The spelling is read as one piece, which stands for the character. -/
def Spells (spelling : List Char) (c : Char) : Prop :=
  ∀ {cs ps left}, scanString cs = some (ps, left) →
    ∃ p, scanString (spelling ++ cs) = some (p :: ps, left) ∧
      assemble (p :: ps) = (assemble ps).map (c :: ·)

/-- A short escape spells its character. -/
lemma spells_short {c e : Char} (hu : c ≠ 'u') (he : shortEscape? c = some e) :
    Spells ['\\', c] e := by
  intro cs ps left h
  refine ⟨.char e, ?_, by rw [assemble]⟩
  change scanString ('\\' :: c :: cs) = _
  rw [scanString, he, h]
  rintro a b d e rest heq -
  exact hu heq

/-- The long escape of a control character spells it. -/
lemma spells_control {c : Char} (hc : c.toNat < 0x20) :
    Spells ['\\', 'u', '0', '0', escapeDigit (c.toNat / 16), escapeDigit (c.toNat % 16)] c := by
  intro cs ps left h
  refine ⟨.unit c.toNat, ?_, ?_⟩
  · change scanString ('\\' :: 'u' :: '0' :: '0' :: escapeDigit (c.toNat / 16) ::
      escapeDigit (c.toNat % 16) :: cs) = _
    rw [scanString, unit?_escapeDigit hc, h]
  · rw [assemble_unit (by omega), Char.ofNat_toNat]

/-- A character that needs no escape spells itself. -/
lemma spells_plain {c : Char} (hquote : c ≠ '"') (hslash : c ≠ '\\') (hc : ¬ c.toNat < 0x20) :
    Spells [c] c := by
  intro cs ps left h
  refine ⟨.char c, ?_, by rw [assemble]⟩
  change scanString (c :: cs) = _
  rw [scanString, if_neg hc, h]
  · rintro rfl
    exact hquote rfl
  · rintro a b d e rest rfl
    exact absurd rfl hslash
  · rintro d rest rfl
    exact absurd rfl hslash

/-- What is written for a character spells it. -/
lemma spells_escape (c : Char) : Spells (escape c) c := by
  unfold escape
  split_ifs with hquote hslash hbackspace hformfeed hnewline hreturn htab hcontrol
  · subst hquote
    exact spells_short (by decide) (by decide)
  · subst hslash
    exact spells_short (by decide) (by decide)
  · subst hbackspace
    exact spells_short (by decide) (by decide)
  · subst hformfeed
    exact spells_short (by decide) (by decide)
  · subst hnewline
    exact spells_short (by decide) (by decide)
  · subst hreturn
    exact spells_short (by decide) (by decide)
  · subst htab
    exact spells_short (by decide) (by decide)
  · exact spells_control hcontrol
  · exact spells_plain hquote hslash hcontrol

/-- The spelling of a text, up to the closing quote. -/
lemma scanString_escapeAll (cs rest : List Char) :
    ∃ ps, scanString (escapeAll cs ++ '"' :: rest) = some (ps, rest) ∧ assemble ps = some cs := by
  induction cs with
  | nil => exact ⟨[], by rw [escapeAll, List.nil_append, scanString], rfl⟩
  | cons c cs ih =>
    obtain ⟨ps, hscan, hps⟩ := ih
    obtain ⟨p, hp, hassemble⟩ := spells_escape c hscan
    refine ⟨p :: ps, ?_, ?_⟩
    · rw [escapeAll, List.append_assoc, hp]
    · rw [hassemble, hps, Option.map_some]

/-- A text is read back from its spelling. -/
theorem readString_escapeAll (s : String) (rest : List Char) :
    readString (escapeAll s.toList ++ '"' :: rest) = some (some s, rest) := by
  obtain ⟨ps, hscan, hassemble⟩ := scanString_escapeAll s.toList rest
  rw [readString, hscan]
  simp only [hassemble, Option.map_some, String.ofList_toList]

/-! ### Numbers -/

/-- What may stand behind a number: nothing that could belong to it. -/
def BehindNumber (rest : List Char) : Prop :=
  ∀ c ∈ rest.head?, Decimal.isDigit c = false ∧ c ≠ '.' ∧ c ≠ 'e' ∧ c ≠ 'E'

/-- The digits of a number are all in front of the point. -/
lemma whole?_digits {rest : List Char} (h : BehindNumber rest) (k : Nat) :
    whole? (Decimal.digits k ++ rest) = some (Decimal.digits k, rest) := by
  have hds : ∀ c ∈ Decimal.digits k, Decimal.isDigit c = true :=
    fun c hc => Decimal.isDigit_of_mem_digits hc
  have hrest : ∀ c ∈ rest.head?, Decimal.isDigit c = false := fun c hc => (h c hc).1
  have hdigits : digits? (Decimal.digits k ++ rest) = some (Decimal.digits k, rest) := by
    rw [digits?, Decimal.takeWhile_append hds hrest, Decimal.dropWhile_append hds hrest]
    obtain ⟨d, ds, hne⟩ := List.exists_cons_of_ne_nil (Decimal.digits_ne_nil k)
    rw [hne]
  rw [whole?, hdigits]
  split
  · rename_i heq
    have hdigits := (Prod.mk.inj (Option.some.inj heq)).1
    exact absurd (Decimal.tail_eq_nil_of_digits_eq_zero hdigits) (by simp)
  · rfl

/-- There is no point behind the digits. -/
lemma fraction?_of_behindNumber {rest : List Char} (h : BehindNumber rest) :
    fraction? rest = some (none, rest) := by
  unfold fraction?
  split
  · exact absurd rfl (h '.' rfl).2.1
  · rfl

/-- There is no exponent behind the digits. -/
lemma exponent?_of_behindNumber {rest : List Char} (h : BehindNumber rest) :
    exponent? rest = some (none, rest) := by
  cases rest with
  | nil => rfl
  | cons c rest =>
    have hc := h c rfl
    exact if_neg (not_or.2 hc.2.2)

end Reader

/-- An integer as it is written: neither point nor exponent. -/
def Numeral.IsInteger (n : Numeral) : Prop :=
  ∃ k, n = ⟨n.negative, Decimal.digits k, none, none⟩

namespace Reader

/-- The digits behind a sign are read back. -/
lemma unsigned?_digits {rest : List Char} (h : BehindNumber rest) (negative : Bool) (k : Nat) :
    unsigned? negative (Decimal.digits k ++ rest) =
      some (⟨negative, Decimal.digits k, none, none⟩, rest) := by
  rw [unsigned?, whole?_digits h]
  simp only [fraction?_of_behindNumber h, exponent?_of_behindNumber h]

/-- The digits of a number start with one. -/
lemma exists_digits_eq_cons (k : Nat) :
    ∃ d ds, Decimal.digits k = d :: ds ∧ Decimal.isDigit d = true := by
  obtain ⟨d, ds, hds⟩ := List.exists_cons_of_ne_nil (Decimal.digits_ne_nil k)
  have hmem : d ∈ Decimal.digits k := by
    rw [hds]
    exact List.mem_cons_self
  exact ⟨d, ds, hds, Decimal.isDigit_of_mem_digits hmem⟩

/-- A digit is no other character. -/
lemma ne_of_isDigit {c d : Char} (hc : Decimal.isDigit c = true) (hd : Decimal.isDigit d = false) :
    c ≠ d := by
  rintro rfl
  rw [hc] at hd
  cases hd

/-- An integer starts with its sign or a digit. -/
lemma exists_render_eq_cons {n : Numeral} (hn : n.IsInteger) :
    ∃ c cs, n.render = c :: cs ∧ (c = '-' ∨ Decimal.isDigit c = true) := by
  obtain ⟨k, hk⟩ := hn
  obtain ⟨d, ds, hds, hd⟩ := exists_digits_eq_cons k
  rw [hk]
  cases n.negative with
  | true => exact ⟨'-', Decimal.digits k, by simp [Numeral.render], Or.inl rfl⟩
  | false => exact ⟨d, ds, by simp [Numeral.render, hds], Or.inr hd⟩

/-- An integer is read back. -/
theorem numeral?_render {n : Numeral} (hn : n.IsInteger) {rest : List Char}
    (h : BehindNumber rest) : numeral? (n.render ++ rest) = some (n, rest) := by
  obtain ⟨k, hk⟩ := hn
  rw [hk]
  cases n.negative with
  | true =>
    have hrender : (⟨true, Decimal.digits k, none, none⟩ : Numeral).render ++ rest =
        '-' :: (Decimal.digits k ++ rest) := by
      simp [Numeral.render]
    rw [hrender, numeral?, unsigned?_digits h]
  | false =>
    have hrender : (⟨false, Decimal.digits k, none, none⟩ : Numeral).render ++ rest =
        Decimal.digits k ++ rest := by
      simp [Numeral.render]
    rw [hrender, numeral?, unsigned?_digits h]
    -- digits do not start with a sign
    rintro left hleft
    obtain ⟨d, ds, hds, hd⟩ := exists_digits_eq_cons k
    rw [hds, List.cons_append] at hleft
    exact ne_of_isDigit hd (by decide) (List.cons.inj hleft).1

end Reader

end NestedWorkflow.Json
