import Mathlib.Data.List.Induction
import NestedWorkflow.Proofs.Identity.Preimage

/-!
# Unique identifiers across nesting levels

A node that is nested in other nodes gets its identifier level by level: the identifier of one level
is the parent of the next (`UniqueId.descend`).  Levels are taken from the outermost one inwards.

Two ways down that end in the same identifier are the same way, unless the digest collides on them
(`UniqueId.descend_identifies`).  The proof goes up from the end.  If the last levels were hashed
from the same bytes, then node, attempt and parent agree, and the ways above them end in the same
identifier again; otherwise the last levels are the collision.  A way cannot stop early: the root is
told from every identifier that is produced by its length.
-/

namespace NestedWorkflow

/-- Lower-case hexadecimal digits. -/
def Hex.IsLower (c : Char) : Prop := ('0' ≤ c ∧ c ≤ '9') ∨ ('a' ≤ c ∧ c ≤ 'f')

instance (c : Char) : Decidable (Hex.IsLower c) := by
  unfold Hex.IsLower
  infer_instance

namespace Hex

/-- The digit of a value below sixteen is lower-case. -/
lemma isLower_digit {n : Nat} (h : n < 16) : IsLower (digit n) := by
  have hcases : ∀ m < 16, IsLower (digit m) := by decide
  exact hcases n h

/-- Bytes are spelled in lower-case digits. -/
lemma isLower_of_mem_encode {bytes : List UInt8} {c : Char} (h : c ∈ encode bytes) :
    IsLower c := by
  obtain ⟨b, -, hc⟩ := List.mem_flatMap.1 h
  have hb : b.toNat < 256 := b.toNat_lt
  rcases List.mem_pair.1 hc with rfl | rfl
  · exact isLower_digit (by omega)
  · exact isLower_digit (by omega)

/-- Lower-case digits are ASCII characters. -/
lemma IsLower.utf8Size_eq {c : Char} (h : IsLower c) : c.utf8Size = 1 := by
  rw [Char.utf8Size_eq_one_iff]
  rcases h with ⟨-, hle⟩ | ⟨-, hle⟩
  · exact UInt32.le_trans hle (by decide)
  · exact UInt32.le_trans hle (by decide)

end Hex

namespace UniqueId

/-! ### The form of identifiers -/

/-- The form of an identifier: the letter `f` and lower-case digits. -/
structure WellFormed (length : Nat) (id : UniqueId) : Prop where
  length_eq : id.toList.length = length
  size_eq : (bytes id).length = length
  head_eq : id.toList.head? = some 'f'
  isLower : ∀ c ∈ id.toList.tail, Hex.IsLower c

/-- All digits that an identifier takes from the digest are there. -/
lemma length_le_digits {length : Nat} (h : length ≤ maxLength) (message : List UInt8) :
    length - 1 ≤ (Hex.encode (Sha256.digest message)).length := by
  rw [Hex.length_encode, Sha256.length_digest]
  unfold maxLength at h
  omega

/-- What is made of a digest has the form of an identifier. -/
lemma wellFormed_ofPreimage {length : Nat} (hmin : minLength ≤ length) (hmax : length ≤ maxLength)
    (message : List UInt8) : WellFormed length (ofPreimage message length) := by
  have hdigits := length_le_digits hmax message
  have hlower : ∀ c ∈ (Hex.encode (Sha256.digest message)).take (length - 1), Hex.IsLower c :=
    fun c hc => Hex.isLower_of_mem_encode (List.mem_of_mem_take hc)
  have hlength : ('f' :: (Hex.encode (Sha256.digest message)).take (length - 1)).length =
      length := by
    rw [List.length_cons, List.length_take_of_le hdigits]
    unfold minLength at hmin
    omega
  have hsizes : ∀ c ∈ 'f' :: (Hex.encode (Sha256.digest message)).take (length - 1),
      c.utf8Size = 1 := by
    intro c hc
    rcases List.mem_cons.1 hc with rfl | hc
    · decide
    · exact (hlower c hc).utf8Size_eq
  refine ⟨?_, ?_, ?_, ?_⟩
  · rw [ofPreimage, String.toList_ofList]
    exact hlength
  · rw [ofPreimage, length_bytes_ofList_of_ascii hsizes]
    exact hlength
  · rw [ofPreimage, String.toList_ofList]
    rfl
  · rw [ofPreimage, String.toList_ofList]
    exact hlower

/-- Equal identifiers take the same digits from their digests. -/
lemma take_eq_of_ofPreimage_eq {length : Nat} {message other : List UInt8}
    (h : ofPreimage message length = ofPreimage other length) :
    (Hex.encode (Sha256.digest message)).take (length - 1) =
      (Hex.encode (Sha256.digest other)).take (length - 1) := by
  exact (List.cons.inj (String.ofList_inj.1 h)).2

/-- An identifier of the right form is no empty text. -/
lemma WellFormed.ne_empty {length : Nat} {id : UniqueId} (h : WellFormed length id) : id ≠ "" := by
  rintro rfl
  have hhead := h.head_eq
  cases hhead

/-- An identifier is computed wherever node and parent have names. -/
lemma compute_eq_ok {length : Nat} (hmin : minLength ≤ length) (hmax : length ≤ maxLength)
    {node : NodeId} {parent : UniqueId} (hnode : node ≠ "") (hparent : parent ≠ "")
    (attempt : Nat) :
    compute node parent attempt length =
      .ok (ofPreimage (preimage parent attempt node) length) := by
  have hrange : ¬ (length < minLength ∨ maxLength < length) := by omega
  rw [compute, if_neg hrange, if_neg hnode, if_neg hparent]

/-! ### Nesting -/

/-- One level of nesting: a node, and the attempt of the node that encloses it. -/
@[ext]
structure Level where
  node : NodeId
  attempt : Nat

/-- The node has a name, and both parts fit into the words that are made for them. -/
structure Level.Valid (l : Level) : Prop where
  node_ne : l.node ≠ ""
  size_lt : (bytes l.node).length < Word.size64
  attempt_lt : l.attempt < Word.size32

/-- The identifier at the end of a way down. -/
def descend (length : Nat) (root : UniqueId) (levels : List Level) : Except Error UniqueId :=
  levels.foldlM (fun parent l => compute l.node parent l.attempt length) root

/-- The bytes are hashed for one of the levels. -/
def Hashes (length : Nat) (root : UniqueId) (levels : List Level) (message : List UInt8) : Prop :=
  ∃ front l back parent, levels = front ++ l :: back ∧ descend length root front = .ok parent ∧
    message = preimage parent l.attempt l.node

/-- Two different messages that are hashed on the ways have the same digits in front. -/
def Collides (length : Nat) (root : UniqueId) (levels others : List Level) : Prop :=
  ∃ message other, message ≠ other ∧
    (Hashes length root levels message ∨ Hashes length root others message) ∧
    (Hashes length root levels other ∨ Hashes length root others other) ∧
    (Hex.encode (Sha256.digest message)).take (length - 1) =
      (Hex.encode (Sha256.digest other)).take (length - 1)

variable {length : Nat} {root : UniqueId} {levels others : List Level}

/-- The last level of a way down takes the identifier above it for its parent. -/
lemma descend_concat {parent : UniqueId} (h : descend length root levels = .ok parent) (l : Level) :
    descend length root (levels ++ [l]) = compute l.node parent l.attempt length := by
  have hfold : descend length root (levels ++ [l]) =
      descend length root levels >>= fun p => descend length p [l] := List.foldlM_append
  rw [hfold, h]
  change (compute l.node parent l.attempt length >>= pure) = _
  cases compute l.node parent l.attempt length <;> rfl

/-- What is hashed on a way is hashed on the way that goes further down. -/
lemma Hashes.concat {message : List UInt8} (h : Hashes length root levels message) (last : Level) :
    Hashes length root (levels ++ [last]) message := by
  obtain ⟨front, l, back, parent, rfl, hparent, rfl⟩ := h
  refine ⟨front, l, back ++ [last], parent, ?_, hparent, rfl⟩
  rw [List.append_assoc, List.cons_append]

/-- A collision on two ways is one on the ways that go further down. -/
lemma Collides.concat (h : Collides length root levels others) (l l' : Level) :
    Collides length root (levels ++ [l]) (others ++ [l']) := by
  obtain ⟨message, other, hne, hmessage, hother, hdigits⟩ := h
  exact ⟨message, other, hne, hmessage.imp (·.concat l) (·.concat l'),
    hother.imp (·.concat l) (·.concat l'), hdigits⟩

/-- What may stand at the end of a way: the root if there are no levels, else an identifier of the
right form. -/
def Ends (length : Nat) (root : UniqueId) (levels : List Level) (id : UniqueId) : Prop :=
  levels = [] ∧ id = root ∨ levels ≠ [] ∧ WellFormed length id

/-- The end of a way has a name. -/
lemma Ends.ne_empty {id : UniqueId} (hroot : root ≠ "") (h : Ends length root levels id) :
    id ≠ "" := by
  rcases h with ⟨-, rfl⟩ | ⟨-, hform⟩
  · exact hroot
  · exact hform.ne_empty

/-- The end of a way has a length that can be written in front of it. -/
lemma Ends.size_lt {id : UniqueId} (hmax : length ≤ maxLength)
    (hroot : (bytes root).length < Word.size64) (h : Ends length root levels id) :
    (bytes id).length < Word.size64 := by
  rcases h with ⟨-, rfl⟩ | ⟨-, hform⟩
  · exact hroot
  · have hsize := hform.size_eq
    unfold maxLength at hmax
    unfold Word.size64
    omega

section Descent

variable (hmin : minLength ≤ length) (hmax : length ≤ maxLength) (hroot : root ≠ "")

include hmin hmax hroot

/-- One more level is hashed under the end of the way, and the identifier has the right form. -/
lemma Ends.concat {parent : UniqueId} (hends : Ends length root levels parent)
    (hparent : descend length root levels = .ok parent) {l : Level} (hl : l.Valid) :
    descend length root (levels ++ [l]) =
        .ok (ofPreimage (preimage parent l.attempt l.node) length) ∧
      Ends length root (levels ++ [l])
        (ofPreimage (preimage parent l.attempt l.node) length) := by
  constructor
  · rw [descend_concat hparent]
    exact compute_eq_ok hmin hmax hl.node_ne (hends.ne_empty hroot) l.attempt
  · exact Or.inr ⟨by simp, wellFormed_ofPreimage hmin hmax _⟩

/-- Every way down has an end. -/
lemma descend_ok (hlevels : ∀ l ∈ levels, l.Valid) :
    ∃ id, descend length root levels = .ok id ∧ Ends length root levels id := by
  induction levels using List.reverseRecOn with
  | nil => exact ⟨root, rfl, Or.inl ⟨rfl, rfl⟩⟩
  | append_singleton front l ih =>
    obtain ⟨hfront, hl⟩ := List.forall_mem_append.1 hlevels
    obtain ⟨parent, hparent, hends⟩ := ih hfront
    exact ⟨_, hends.concat hmin hmax hroot hparent (hl l (List.mem_singleton_self l))⟩

/-- The last two levels of two ways that end in one identifier collide, or they are one level under
one parent. -/
lemma concat_cases {l l' : Level} (hsize : (bytes root).length < Word.size64)
    (hlevels : ∀ k ∈ levels ++ [l], k.Valid) (hothers : ∀ k ∈ others ++ [l'], k.Valid)
    (h : descend length root (levels ++ [l]) = descend length root (others ++ [l'])) :
    Collides length root (levels ++ [l]) (others ++ [l']) ∨
      l = l' ∧ descend length root levels = descend length root others := by
  obtain ⟨hfront, hlast⟩ := List.forall_mem_append.1 hlevels
  obtain ⟨hfront', hlast'⟩ := List.forall_mem_append.1 hothers
  have hl := hlast l (List.mem_singleton_self l)
  have hl' := hlast' l' (List.mem_singleton_self l')
  obtain ⟨parent, hparent, hends⟩ := descend_ok hmin hmax hroot hfront
  obtain ⟨parent', hparent', hends'⟩ := descend_ok hmin hmax hroot hfront'
  rw [(hends.concat hmin hmax hroot hparent hl).1,
    (hends'.concat hmin hmax hroot hparent' hl').1] at h
  have hdigits := take_eq_of_ofPreimage_eq (Except.ok.inj h)
  by_cases hsame : preimage parent l.attempt l.node = preimage parent' l'.attempt l'.node
  · right
    obtain ⟨hparents, hattempts, hnodes⟩ := preimage_inj (hends.size_lt hmax hsize)
      (hends'.size_lt hmax hsize) hl.attempt_lt hl'.attempt_lt hl.size_lt hl'.size_lt hsame
    rw [hparent, hparent', hparents]
    exact ⟨Level.ext hnodes hattempts, rfl⟩
  · left
    exact ⟨_, _, hsame, Or.inl ⟨levels, l, [], parent, rfl, hparent, rfl⟩,
      Or.inr ⟨others, l', [], parent', rfl, hparent', rfl⟩, hdigits⟩

/-- The root is no end of a way that has levels. -/
lemma descend_concat_ne_root (hlength : (bytes root).length ≠ length) {l : Level}
    (hlevels : ∀ k ∈ levels ++ [l], k.Valid) :
    descend length root (levels ++ [l]) ≠ .ok root := by
  intro h
  obtain ⟨id, hid, hends⟩ := descend_ok hmin hmax hroot hlevels
  rw [h] at hid
  obtain rfl := Except.ok.inj hid
  rcases hends with ⟨hnil, -⟩ | ⟨-, hform⟩
  · exact absurd hnil (by simp)
  · exact hlength hform.size_eq

/-- Two ways to one identifier are one way, or the digest collides on them. -/
lemma eq_or_collides (hlength : (bytes root).length ≠ length)
    (hsize : (bytes root).length < Word.size64) (hlevels : ∀ l ∈ levels, l.Valid)
    (hothers : ∀ l ∈ others, l.Valid)
    (h : descend length root levels = descend length root others) :
    levels = others ∨ Collides length root levels others := by
  -- from the end of both ways upwards: each step compares the last levels and drops them
  induction levels using List.reverseRecOn generalizing others with
  | nil =>
    cases others using List.reverseRecOn with
    | nil => exact Or.inl rfl
    | append_singleton front' l' =>
      exact absurd h.symm (descend_concat_ne_root hmin hmax hroot hlength hothers)
  | append_singleton front l ih =>
    cases others using List.reverseRecOn with
    | nil => exact absurd h (descend_concat_ne_root hmin hmax hroot hlength hlevels)
    | append_singleton front' l' =>
      rcases concat_cases hmin hmax hroot hsize hlevels hothers h with hcollides | ⟨rfl, habove⟩
      · exact Or.inr hcollides
      · have hfront := (List.forall_mem_append.1 hlevels).1
        have hfront' := (List.forall_mem_append.1 hothers).1
        rcases ih hfront hfront' habove with rfl | hcollides
        · exact Or.inl rfl
        · exact Or.inr (hcollides.concat l l)

end Descent

/-- Identifiers identify across nesting levels and attempts.  Every level of a way down gets an
identifier of the right form, cut from a digest that is long enough, and nodes can be nested under
it; two ways that end in one identifier are the same way, or the digest collides on them. -/
theorem descend_identifies (hmin : minLength ≤ length) (hmax : length ≤ maxLength)
    (hroot : root ≠ "") (hlength : (bytes root).length ≠ length)
    (hsize : (bytes root).length < Word.size64) (hlevels : ∀ l ∈ levels, l.Valid)
    (hothers : ∀ l ∈ others, l.Valid) :
    (∃ id, descend length root levels = .ok id) ∧
    (∀ front l back, levels = front ++ l :: back →
      ∃ parent, descend length root front = .ok parent ∧
        compute l.node parent l.attempt length =
          .ok (ofPreimage (preimage parent l.attempt l.node) length) ∧
        length - 1 ≤ (Hex.encode (Sha256.digest (preimage parent l.attempt l.node))).length ∧
        WellFormed length (ofPreimage (preimage parent l.attempt l.node) length) ∧
        ∀ (node : NodeId) (attempt : Nat), node ≠ "" →
          ∃ id, compute node (ofPreimage (preimage parent l.attempt l.node) length) attempt
            length = .ok id) ∧
    (∀ id, descend length root levels = .ok id → descend length root others = .ok id →
      levels = others ∨ Collides length root levels others) := by
  refine ⟨?_, ?_, ?_⟩
  · obtain ⟨id, hid, -⟩ := descend_ok hmin hmax hroot hlevels
    exact ⟨id, hid⟩
  · rintro front l back rfl
    obtain ⟨hfront, hback⟩ := List.forall_mem_append.1 hlevels
    obtain ⟨parent, hparent, hends⟩ := descend_ok hmin hmax hroot hfront
    have hform := wellFormed_ofPreimage hmin hmax (preimage parent l.attempt l.node)
    have hl : l.Valid := hback l List.mem_cons_self
    refine ⟨parent, hparent, ?_, length_le_digits hmax _, hform, ?_⟩
    · exact compute_eq_ok hmin hmax hl.node_ne (hends.ne_empty hroot) l.attempt
    · intro node attempt hnode
      exact ⟨_, compute_eq_ok hmin hmax hnode hform.ne_empty attempt⟩
  · intro id hid hid'
    exact eq_or_collides hmin hmax hroot hlength hsize hlevels hothers (hid.trans hid'.symm)

end UniqueId

/-! ### Two ways to one identifier -/

namespace Sample

open UniqueId

/-- Two nodes that get one identifier of eight characters in the first attempt of one graph. -/
lemma ofPreimage_n2606_eq_n14323 :
    ofPreimage (preimage "outer-1" 0 "n2606") 8 = ofPreimage (preimage "outer-1" 0 "n14323") 8 := by
  decide +kernel

/-- A way down to an inner node. -/
def firstWay : List Level := [⟨"n2606", 0⟩, ⟨"inner", 1⟩]

/-- Another way, which meets the first one. -/
def secondWay : List Level := [⟨"n14323", 0⟩, ⟨"inner", 1⟩]

/-- The first way meets the demands on levels. -/
lemma firstWay_valid : ∀ l ∈ firstWay, l.Valid := by
  intro l hl
  rcases List.mem_pair.1 hl with rfl | rfl
  · exact ⟨by decide, by decide, by decide⟩
  · exact ⟨by decide, by decide, by decide⟩

/-- The second way meets the demands on levels. -/
lemma secondWay_valid : ∀ l ∈ secondWay, l.Valid := by
  intro l hl
  rcases List.mem_pair.1 hl with rfl | rfl
  · exact ⟨by decide, by decide, by decide⟩
  · exact ⟨by decide, by decide, by decide⟩

/-- The two ways end in one identifier. -/
lemma descend_firstWay : descend 8 "outer-1" firstWay = descend 8 "outer-1" secondWay := by
  have hroot : descend 8 "outer-1" [] = .ok "outer-1" := rfl
  have hfirst : descend 8 "outer-1" [⟨"n2606", 0⟩] =
      .ok (ofPreimage (preimage "outer-1" 0 "n2606") 8) := (descend_concat hroot _).trans
    (compute_eq_ok (by decide) (by decide) (by decide) (by decide) 0)
  have hsecond : descend 8 "outer-1" [⟨"n14323", 0⟩] =
      .ok (ofPreimage (preimage "outer-1" 0 "n14323") 8) := (descend_concat hroot _).trans
    (compute_eq_ok (by decide) (by decide) (by decide) (by decide) 0)
  rw [← ofPreimage_n2606_eq_n14323] at hsecond
  exact (descend_concat hfirst _).trans (descend_concat hsecond _).symm

/-- Both ways go through to the end, and the digest collides on them. -/
theorem firstWay_collides :
    (∃ id, descend 8 "outer-1" firstWay = .ok id ∧ descend 8 "outer-1" secondWay = .ok id) ∧
      Collides 8 "outer-1" firstWay secondWay := by
  obtain ⟨⟨id, hid⟩, -, hsame⟩ := descend_identifies (by decide : minLength ≤ 8) (by decide)
    (by decide : "outer-1" ≠ "") (by decide) (by decide) firstWay_valid secondWay_valid
  have hid' : descend 8 "outer-1" secondWay = .ok id := descend_firstWay.symm.trans hid
  refine ⟨⟨id, hid, hid'⟩, ?_⟩
  rcases hsame id hid hid' with heq | hcollides
  · exact absurd (congrArg (List.map Level.node) heq) (by decide)
  · exact hcollides

end Sample

end NestedWorkflow
