import Mathlib.Data.List.Basic
import NestedWorkflow.Identity
import NestedWorkflow.Proofs.Decimal.Digits
import NestedWorkflow.Word

/-!
# What is hashed for a node determines the node

Unique identifiers are digests of three texts in a row, each with its length in front.  The lengths
are what makes the row readable again: without them `"a-1", "0", "b"` and `"a", "1", "0-b"` could be
told apart only by a separator that occurs in neither.  This file shows that the bytes determine
parent, attempt and node (`UniqueId.preimage_inj`), as long as lengths fit into the eight bytes that
are written for them.
-/

namespace NestedWorkflow

/-! ### Lengths as bytes -/

namespace Sha256

/-- One more byte of two numbers that agree above it. -/
lemma div_eq_of_byte_eq {m n k : Nat} (hhigh : m / 2 ^ (k + 8) = n / 2 ^ (k + 8))
    (hbyte : m / 2 ^ k % 256 = n / 2 ^ k % 256) : m / 2 ^ k = n / 2 ^ k := by
  have hsplit : ∀ x : Nat, 256 * (x / 2 ^ (k + 8)) + x / 2 ^ k % 256 = x / 2 ^ k := by
    intro x
    rw [Nat.pow_add, ← Nat.div_div_eq_div_mul]
    exact Nat.div_add_mod _ _
  rw [← hsplit m, ← hsplit n, hhigh, hbyte]

/-- Eight bytes determine a number of sixty-four bits. -/
lemma bigEndian64_inj {m n : Nat} (hm : m < Word.size64) (hn : n < Word.size64) :
    bigEndian64 m = bigEndian64 n ↔ m = n := by
  constructor
  · intro h
    have hbyte : ∀ shift ∈ [56, 48, 40, 32, 24, 16, 8, 0],
        m / 2 ^ shift % 256 = n / 2 ^ shift % 256 := by
      intro shift hshift
      have heq := List.map_inj_left.1 h shift hshift
      have hnat := congrArg UInt8.toNat heq
      simpa [Nat.shiftRight_eq_div_pow] using hnat
    have h64 : m / 2 ^ 64 = n / 2 ^ 64 :=
      (Nat.div_eq_of_lt hm).trans (Nat.div_eq_of_lt hn).symm
    have h56 := div_eq_of_byte_eq h64 (hbyte 56 (by decide))
    have h48 := div_eq_of_byte_eq h56 (hbyte 48 (by decide))
    have h40 := div_eq_of_byte_eq h48 (hbyte 40 (by decide))
    have h32 := div_eq_of_byte_eq h40 (hbyte 32 (by decide))
    have h24 := div_eq_of_byte_eq h32 (hbyte 24 (by decide))
    have h16 := div_eq_of_byte_eq h24 (hbyte 16 (by decide))
    have h8 := div_eq_of_byte_eq h16 (hbyte 8 (by decide))
    have h0 := div_eq_of_byte_eq h8 (hbyte 0 (by decide))
    simpa using h0
  · rintro rfl
    rfl

end Sha256

/-! ### Framed texts -/

namespace UniqueId

/-- The bytes determine the text. -/
lemma bytes_inj {s t : String} : bytes s = bytes t ↔ s = t := by
  constructor
  · intro h
    have hdata : s.toByteArray.data = t.toByteArray.data := Array.toList_inj.1 h
    exact String.toByteArray_inj.1 (ByteArray.ext hdata)
  · rintro rfl
    rfl

/-- The bytes of a text, character by character. -/
lemma length_bytes_ofList_cons (c : Char) (cs : List Char) :
    (bytes (String.ofList (c :: cs))).length =
      c.utf8Size + (bytes (String.ofList cs)).length := by
  have hbytes : ∀ s : String, (bytes s).length = s.utf8ByteSize := by
    intro s
    rw [bytes, Array.length_toList, ByteArray.size_data]
    exact String.size_toByteArray
  rw [hbytes, hbytes, String.ofList_cons, String.utf8ByteSize_append,
    String.utf8ByteSize_singleton]

/-- A text has at most four bytes for a character. -/
lemma length_bytes_ofList_le (cs : List Char) :
    (bytes (String.ofList cs)).length ≤ 4 * cs.length := by
  induction cs with
  | nil => decide
  | cons c cs ih =>
    have hsize := c.utf8Size_le_four
    rw [length_bytes_ofList_cons, List.length_cons]
    omega

/-- A text of ASCII characters has one byte for a character. -/
lemma length_bytes_ofList_of_ascii {cs : List Char} (h : ∀ c ∈ cs, c.utf8Size = 1) :
    (bytes (String.ofList cs)).length = cs.length := by
  induction cs with
  | nil => rfl
  | cons c cs ih =>
    obtain ⟨hc, hcs⟩ := List.forall_mem_cons.1 h
    rw [length_bytes_ofList_cons, List.length_cons, hc, ih hcs, Nat.add_comm]

/-- What is framed in front of a row can be read off it. -/
lemma framed_append_inj {s t : String} {x y : List UInt8} (hs : (bytes s).length < Word.size64)
    (ht : (bytes t).length < Word.size64) (h : framed s ++ x = framed t ++ y) : s = t ∧ x = y := by
  unfold framed at h
  rw [List.append_assoc, List.append_assoc] at h
  obtain ⟨hlength, hrest⟩ := List.append_inj h rfl
  have hsame := (Sha256.bigEndian64_inj hs ht).1 hlength
  obtain ⟨hbytes, hxy⟩ := List.append_inj hrest hsame
  exact ⟨bytes_inj.1 hbytes, hxy⟩

/-- The digits of a counter fit into the length that is written for them. -/
lemma length_bytes_digits_lt {attempt : Nat} (h : attempt < Word.size32) :
    (bytes (String.ofList (Decimal.digits attempt))).length < Word.size64 := by
  have hbytes := length_bytes_ofList_le (Decimal.digits attempt)
  have hsmall : attempt < 10 ^ 10 := lt_of_lt_of_le h (by decide)
  have hdigits := Decimal.length_digits_le (by decide) hsmall
  unfold Word.size64
  omega

/-- The bytes that are hashed determine parent, attempt and node. -/
theorem preimage_inj {parent other : UniqueId} {attempt attempt' : Nat} {node node' : NodeId}
    (hparent : (bytes parent).length < Word.size64) (hother : (bytes other).length < Word.size64)
    (hattempt : attempt < Word.size32) (hattempt' : attempt' < Word.size32)
    (hnode : (bytes node).length < Word.size64) (hnode' : (bytes node').length < Word.size64)
    (h : preimage parent attempt node = preimage other attempt' node') :
    parent = other ∧ attempt = attempt' ∧ node = node' := by
  unfold preimage at h
  rw [List.append_assoc, List.append_assoc] at h
  obtain ⟨rfl, hrest⟩ := framed_append_inj hparent hother h
  obtain ⟨hdigits, hlast⟩ := framed_append_inj (length_bytes_digits_lt hattempt)
    (length_bytes_digits_lt hattempt') hrest
  rw [← List.append_nil (framed node), ← List.append_nil (framed node')] at hlast
  obtain ⟨rfl, -⟩ := framed_append_inj hnode hnode' hlast
  exact ⟨rfl, Decimal.digits_inj.1 (String.ofList_inj.1 hdigits), rfl⟩

end UniqueId

end NestedWorkflow
