import NestedWorkflow.Artifact.Local
import NestedWorkflow.Proofs.Reference.Segments
import NestedWorkflow.Proofs.Text.ByteOrder

/-!
# Names of files

A segment becomes the name of a file or a directory.  Its bytes can be read back from the name
(`FileName.read_ofSegment`), so segments keep apart what they name (`FileName.ofSegment_injective`).
And the name is that of an entry (`FileName.isEntry_ofSegment`): it goes one directory down,
whatever the segment is, since the names by which a directory goes to itself and to its parent are
spelled in another way.
-/

namespace NestedWorkflow.FileName

/-- How one byte is spelled. -/
def spell (b : UInt8) : List Char := if isUnsafe b then spellByte b else [Char.ofNat b.toNat]

/-- The bytes that are spelled by the characters of a name. -/
def read : List Char → List UInt8
  | '%' :: high :: low :: rest => (Hex.decode? [high, low]).getD [] ++ read rest
  | c :: rest => UInt8.ofNat c.toNat :: read rest
  | [] => []

/-! ### Reading back -/

/-- Upper-case digits have their values. -/
lemma value?_upperDigit {n : Nat} (h : n < 16) : Hex.value? (upperDigit n) = some n := by
  have hall : ∀ n < 16, Hex.value? (upperDigit n) = some n := by decide
  exact hall n h

/-- The digits of a byte give the byte. -/
lemma decode?_upperDigits (b : UInt8) :
    Hex.decode? [upperDigit (b.toNat / 16), upperDigit (b.toNat % 16)] = some [b] := by
  have hb : b.toNat < 256 := b.toNat_lt
  have hhigh := value?_upperDigit (show b.toNat / 16 < 16 by omega)
  have hlow := value?_upperDigit (show b.toNat % 16 < 16 by omega)
  have hsum : UInt8.ofNat (16 * (b.toNat / 16) + b.toNat % 16) = b := by
    rw [Nat.div_add_mod, UInt8.ofNat_toNat]
  simp only [Hex.decode?, hhigh, hlow, Option.bind_eq_bind, Option.bind_some, Option.pure_def, hsum]

/-- A byte has the number of its character. -/
lemma toNat_ofNat_byte (b : UInt8) : (Char.ofNat b.toNat).toNat = b.toNat := by
  have hb : b.toNat < 256 := b.toNat_lt
  have hvalid : b.toNat.isValidChar := .inl (by omega)
  rw [Char.ofNat, dif_pos hvalid]
  rfl

/-- The mark of a spelled byte does not stand for itself. -/
lemma ofNat_ne_percent {b : UInt8} (h : ¬ isUnsafe b = true) : Char.ofNat b.toNat ≠ '%' := by
  intro heq
  have hnat : b.toNat = '%'.toNat := by rw [← heq, toNat_ofNat_byte]
  have hb : b = 37 := UInt8.toNat_inj.1 hnat
  exact h (by rw [hb]; decide)

/-- A spelled byte is read back, whatever follows it. -/
lemma read_spell_append (b : UInt8) (rest : List Char) :
    read (spell b ++ rest) = b :: read rest := by
  by_cases h : isUnsafe b = true
  · have hmarked : spell b ++ rest =
        '%' :: upperDigit (b.toNat / 16) :: upperDigit (b.toNat % 16) :: rest := by
      rw [spell, if_pos h]
      rfl
    rw [hmarked, read, decode?_upperDigits, Option.getD_some, List.singleton_append]
  · rw [spell, if_neg h, List.singleton_append, read, toNat_ofNat_byte, UInt8.ofNat_toNat]
    -- a percent sign in front would be taken for the mark of a spelled byte
    intro high low tail heq _
    exact ofNat_ne_percent h heq

/-- Spelled bytes are read back. -/
lemma read_flatMap_spell (bytes : List UInt8) : read (bytes.flatMap spell) = bytes := by
  induction bytes with
  | nil => rfl
  | cons b rest ih => rw [List.flatMap_cons, read_spell_append, ih]

/-- A name is its segment byte by byte, unless the segment is a name that a directory has for itself
or its parent. -/
lemma toList_ofSegment {s : String} (hself : s ≠ ".") (hparent : s ≠ "..") :
    (ofSegment s).toList = (UniqueId.bytes s).flatMap spell := by
  rw [ofSegment, if_neg hself, if_neg hparent, String.toList_ofList]
  rfl

/-- The bytes of a segment can be read from its name. -/
theorem read_ofSegment (s : String) : read (ofSegment s).toList = UniqueId.bytes s := by
  by_cases hself : s = "."
  · rw [hself]
    rfl
  · by_cases hparent : s = ".."
    · rw [hparent]
      rfl
    · rw [toList_ofSegment hself hparent, read_flatMap_spell]

/-- The segment of a name is the one whose bytes the name spells. -/
lemma eq_of_ofSegment_eq {s t : String} {name : String} (h : ofSegment s = name)
    (ht : read name.toList = UniqueId.bytes t) : s = t := by
  rw [← UniqueId.bytes_inj, ← ht, ← h, read_ofSegment]

/-- Different segments have different names. -/
theorem ofSegment_injective : Function.Injective ofSegment :=
  fun _ t h => eq_of_ofSegment_eq h (read_ofSegment t)

/-! ### Names of entries -/

/-- A name that leads one directory down. -/
structure IsEntry (name : String) : Prop where
  isSegment : IsSegment name
  ne_self : name ≠ "."
  ne_parent : name ≠ ".."

/-- Only a slash spells a slash. -/
lemma eq_slash_of_mem_spell {b : UInt8} (h : '/' ∈ spell b) : b = 47 := by
  by_cases hunsafe : isUnsafe b = true
  · have hdigits : ∀ n < 16, '/' ≠ upperDigit n := by decide
    have hb : b.toNat < 256 := b.toNat_lt
    rw [spell, if_pos hunsafe, spellByte] at h
    have hhigh := hdigits (b.toNat / 16) (by omega)
    have hlow := hdigits (b.toNat % 16) (by omega)
    simp [hhigh, hlow] at h
  · rw [spell, if_neg hunsafe, List.mem_singleton] at h
    have hnat : b.toNat = '/'.toNat := by rw [h, toNat_ofNat_byte]
    exact UInt8.toNat_inj.1 hnat

/-- A name has a slash only if its segment has one. -/
lemma slash_notMem_ofSegment {s : String} (h : '/' ∉ s.toList) : '/' ∉ (ofSegment s).toList := by
  intro hslash
  by_cases hdots : s = "." ∨ s = ".."
  · rcases hdots with rfl | rfl
    · exact absurd hslash (by decide)
    · exact absurd hslash (by decide)
  · obtain ⟨hself, hparent⟩ := not_or.1 hdots
    rw [toList_ofSegment hself hparent, List.mem_flatMap] at hslash
    obtain ⟨b, hb, hspell⟩ := hslash
    obtain rfl := eq_slash_of_mem_spell hspell
    exact h (UniqueId.mem_toList_of_mem_bytes hb (by decide))

/-- Segments are named as entries of a directory. -/
theorem isEntry_ofSegment {s : String} (h : IsSegment s) : IsEntry (ofSegment s) := by
  have hne : ofSegment s ≠ "" := fun hempty =>
    h.ne_empty (eq_of_ofSegment_eq (t := "") hempty rfl)
  -- only the segment of one dot could be named by it, and has another name; so with two dots
  refine ⟨⟨hne, slash_notMem_ofSegment h.slash_notMem⟩, fun hself => ?_, fun hparent => ?_⟩
  · obtain rfl := eq_of_ofSegment_eq (t := ".") hself rfl
    exact absurd hself (by decide)
  · obtain rfl := eq_of_ofSegment_eq (t := "..") hparent rfl
    exact absurd hparent (by decide)

end NestedWorkflow.FileName
