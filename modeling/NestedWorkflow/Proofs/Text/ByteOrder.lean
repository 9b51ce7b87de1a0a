import Mathlib.Data.String.Basic
import NestedWorkflow.Proofs.Identity.Preimage

/-!
# Texts in the order of their bytes

Texts are compared character by character.  Comparing their bytes gives the same order
(`UniqueId.bytes_lt_bytes`), because of the way characters are encoded: the first byte grows with
the number of bytes, and among characters of equally many bytes these are the digits of the
character to the base 64, the highest one first.  All bytes of a character are marked unless it has
one byte only, so a byte of ASCII comes from its character (`UniqueId.mem_toList_of_mem_bytes`).
-/

namespace NestedWorkflow

namespace UniqueId

/-! ### Characters -/

/-- A number in a first byte, marked by `lead`, and so many more bytes with its lower digits. -/
def spread (lead : Nat) : Nat → Nat → List UInt8
  | 0, n => [UInt8.ofNat (n + lead)]
  | more + 1, n => spread lead more (n / 64) ++ [UInt8.ofNat (n % 64 + 128)]

/-- The mark of the first byte of a character, and the number of bytes that follow. -/
def layout (n : Nat) : Nat × Nat :=
  if n ≤ 127 then (0, 0)
  else if n ≤ 2047 then (192, 1)
  else if n ≤ 65535 then (224, 2)
  else (240, 3)

/-- Characters end where four bytes begin to be too few. -/
lemma toNat_lt (c : Char) : c.toNat < 1114112 := by
  rcases c.valid with h | ⟨-, h⟩
  · exact lt_trans h (by decide)
  · exact h

/-- A character is spread over its bytes. -/
lemma utf8EncodeChar_eq_spread (c : Char) :
    String.utf8EncodeChar c = spread (layout c.toNat).1 (layout c.toNat).2 c.toNat := by
  have hmax := toNat_lt c
  unfold String.utf8EncodeChar layout
  simp only [Char.toNat_val]
  generalize c.toNat = n at *
  split_ifs
  · rfl
  · have hfirst : n / 64 % 32 = n / 64 := by omega
    simp [spread, hfirst]
  · have hfirst : n / 4096 % 16 = n / 4096 := by omega
    simp [spread, hfirst, Nat.div_div_eq_div_mul]
  · have hfirst : n / 262144 % 8 = n / 262144 := by omega
    simp [spread, hfirst, Nat.div_div_eq_div_mul]

/-- Numbers of one byte are compared like the byte. -/
lemma ofNat_lt_ofNat {m n : Nat} (h : m < n) (hn : n < 256) : UInt8.ofNat m < UInt8.ofNat n := by
  rw [UInt8.lt_iff_toNat_lt, UInt8.toNat_ofNat', UInt8.toNat_ofNat']
  omega

/-- What a spread number starts with. -/
lemma exists_spread_eq_cons (lead more n : Nat) :
    ∃ rest, spread lead more n = UInt8.ofNat (n / 64 ^ more + lead) :: rest := by
  induction more generalizing n with
  | zero => exact ⟨[], by simp [spread]⟩
  | succ more ih =>
    obtain ⟨rest, hrest⟩ := ih (n / 64)
    refine ⟨rest ++ [UInt8.ofNat (n % 64 + 128)], ?_⟩
    rw [spread, hrest, Nat.div_div_eq_div_mul, ← Nat.pow_succ']
    rfl

/-- Numbers spread in one way are compared like their bytes. -/
lemma spread_append_lt {lead more m n : Nat} (h : m < n) (hn : n / 64 ^ more + lead < 256)
    (x y : List UInt8) : spread lead more m ++ x < spread lead more n ++ y := by
  induction more generalizing m n x y with
  | zero =>
    rw [Nat.pow_zero, Nat.div_one] at hn
    exact List.cons_lt_cons_iff.2 (.inl (ofNat_lt_ofNat (by omega) hn))
  | succ more ih =>
    rw [spread, spread, List.append_assoc, List.append_assoc]
    rcases Nat.lt_or_ge (m / 64) (n / 64) with hhigh | hhigh
    · refine ih hhigh ?_ _ _
      rwa [Nat.div_div_eq_div_mul, ← Nat.pow_succ']
    · -- The higher digits are the same, and the last one decides.
      have hsame : m / 64 = n / 64 := by omega
      rw [hsame]
      exact List.append_left_lt (List.cons_lt_cons_iff.2
        (.inl (ofNat_lt_ofNat (by omega) (by omega))))

/-- A smaller character has smaller bytes, whatever follows them. -/
lemma utf8EncodeChar_append_lt {c d : Char} (h : c < d) (x y : List UInt8) :
    String.utf8EncodeChar c ++ x < String.utf8EncodeChar d ++ y := by
  have hmax := toNat_lt d
  have hlt : c.toNat < d.toNat := h
  rw [utf8EncodeChar_eq_spread, utf8EncodeChar_eq_spread]
  have hfirst : d.toNat / 64 ^ (layout d.toNat).2 + (layout d.toNat).1 < 256 := by
    unfold layout
    split_ifs <;> simp <;> omega
  by_cases hsame : layout c.toNat = layout d.toNat
  · rw [hsame]
    exact spread_append_lt hlt hfirst x y
  · -- The one with fewer bytes has the smaller first byte.
    have hless : c.toNat / 64 ^ (layout c.toNat).2 + (layout c.toNat).1 <
        d.toNat / 64 ^ (layout d.toNat).2 + (layout d.toNat).1 := by
      unfold layout at *
      split_ifs at * <;> simp at * <;> omega
    obtain ⟨rest, hc⟩ := exists_spread_eq_cons (layout c.toNat).1 (layout c.toNat).2 c.toNat
    obtain ⟨rest', hd⟩ := exists_spread_eq_cons (layout d.toNat).1 (layout d.toNat).2 d.toNat
    rw [hc, hd]
    exact List.cons_lt_cons_iff.2 (.inl (ofNat_lt_ofNat hless hfirst))

/-- The bytes of a character of several bytes are marked, all of them. -/
lemma le_of_mem_spread {lead more n : Nat} {b : UInt8} (hlead : 128 ≤ lead)
    (hfirst : n / 64 ^ more + lead < 256) (h : b ∈ spread lead more n) : 128 ≤ b.toNat := by
  induction more generalizing n with
  | zero =>
    rw [Nat.pow_zero, Nat.div_one] at hfirst
    rw [spread, List.mem_singleton] at h
    rw [h, UInt8.toNat_ofNat']
    omega
  | succ more ih =>
    rw [spread, List.mem_append, List.mem_singleton] at h
    rcases h with hhigh | rfl
    · refine ih ?_ hhigh
      rwa [Nat.div_div_eq_div_mul, ← Nat.pow_succ']
    · rw [UInt8.toNat_ofNat']
      omega

/-- A byte without a mark is all of its character. -/
lemma toNat_eq_of_mem_utf8EncodeChar {c : Char} {b : UInt8} (h : b ∈ String.utf8EncodeChar c)
    (hb : b.toNat < 128) : c.toNat = b.toNat := by
  have hmax := toNat_lt c
  rw [utf8EncodeChar_eq_spread] at h
  by_cases hascii : c.toNat ≤ 127
  · rw [layout, if_pos hascii, spread, List.mem_singleton, Nat.add_zero] at h
    rw [h, UInt8.toNat_ofNat', Nat.mod_eq_of_lt (by omega)]
  · have hmarked : 128 ≤ b.toNat := by
      refine le_of_mem_spread ?_ ?_ h
      · unfold layout
        split_ifs <;> simp
      · unfold layout
        split_ifs <;> simp <;> omega
    exact absurd hmarked (by omega)

/-! ### Texts -/

/-- The bytes of a text, character by character. -/
lemma bytes_eq_flatMap (s : String) : bytes s = s.toList.flatMap String.utf8EncodeChar := by
  have hlist : s = String.ofList s.toList := by simp
  rw [hlist, bytes, String.toUTF8_eq_toByteArray, String.toByteArray_ofList, List.utf8Encode]
  simp

/-- A byte without a mark comes from its character. -/
lemma mem_toList_of_mem_bytes {s : String} {b : UInt8} (h : b ∈ bytes s) (hb : b.toNat < 128) :
    Char.ofNat b.toNat ∈ s.toList := by
  rw [bytes_eq_flatMap, List.mem_flatMap] at h
  obtain ⟨c, hc, hbyte⟩ := h
  rwa [← toNat_eq_of_mem_utf8EncodeChar hbyte hb, Char.ofNat_toNat]

/-- A smaller text has smaller bytes. -/
lemma flatMap_utf8EncodeChar_lt {cs ds : List Char} (h : cs < ds) :
    cs.flatMap String.utf8EncodeChar < ds.flatMap String.utf8EncodeChar := by
  induction ds generalizing cs with
  | nil => exact absurd h (List.not_lt_nil cs)
  | cons d ds ih =>
    cases cs with
    | nil =>
      obtain ⟨rest, hd⟩ := exists_spread_eq_cons (layout d.toNat).1 (layout d.toNat).2 d.toNat
      rw [List.flatMap_cons, utf8EncodeChar_eq_spread, hd]
      exact List.nil_lt_cons _ _
    | cons c cs =>
      rw [List.flatMap_cons, List.flatMap_cons]
      rcases List.cons_lt_cons_iff.1 h with hcd | ⟨rfl, hrest⟩
      · exact utf8EncodeChar_append_lt hcd _ _
      · exact List.append_left_lt (ih hrest)

/-- Texts are compared like their bytes. -/
theorem bytes_lt_bytes {s t : String} : bytes s < bytes t ↔ s < t := by
  have hmono : ∀ {s t : String}, s < t → bytes s < bytes t := by
    intro s t h
    rw [bytes_eq_flatMap, bytes_eq_flatMap]
    exact flatMap_utf8EncodeChar_lt (String.lt_iff.1 h)
  refine ⟨fun h => ?_, hmono⟩
  rcases lt_trichotomy s t with hst | rfl | hts
  · exact hst
  · exact absurd h (List.lt_irrefl _)
  · exact absurd h (List.lt_asymm (hmono hts))

end UniqueId

end NestedWorkflow
