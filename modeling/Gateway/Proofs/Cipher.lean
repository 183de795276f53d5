import Gateway.Cipher.Gcm

namespace Gateway.Cipher

/-! What was encrypted is decrypted, and nothing else is: under one key and one nonce
the contents that are accepted are those that encryption makes. The block cipher counts
here only for the size of its blocks. -/

theorem length_flatMap_of_forall {α : Type u} {members : List α} {parts : α → Bytes}
    {size : Nat} (sized : ∀ member ∈ members, (parts member).length = size) :
    (members.flatMap parts).length = members.length * size := by
  induction members with
  | nil => exact (Nat.zero_mul size).symm
  | cons member rest induction =>
      rw [List.flatMap_cons, List.length_append, sized member List.mem_cons_self,
        induction fun other here => sized other (List.mem_cons_of_mem _ here),
        List.length_cons, Nat.succ_mul, Nat.add_comm]

namespace Aes

open Gcm (blockSize)

def wordSize : Nat := 4

private theorem length_xor (left right : Bytes) :
    (xor left right).length = min left.length right.length :=
  List.length_zipWith

theorem xor_xor {content stream : Bytes} (long : content.length ≤ stream.length) :
    xor (xor content stream) stream = content := by
  induction content generalizing stream with
  | nil => rfl
  | cons byte rest induction =>
      cases stream with
      | nil => cases long
      | cons other others =>
          have undone : byte ^^^ other ^^^ other = byte := by
            rw [UInt8.xor_assoc, UInt8.xor_self, UInt8.xor_zero]
          exact List.cons_eq_cons.2 ⟨undone, induction (Nat.le_of_succ_le_succ long)⟩

/-! The key schedule consists of blocks. -/

private theorem length_of_mem_inGroups {size count : Nat} {content : Bytes}
    (enough : count * size ≤ content.length) {group : Bytes}
    (member : group ∈ inGroups size count content) : group.length = size := by
  induction count generalizing content with
  | zero => cases member
  | succ count induction =>
      rw [Nat.succ_mul] at enough
      rcases List.mem_cons.1 member with rfl | member
      · rw [List.length_take]
        omega
      · refine induction ?_ member
        rw [List.length_drop]
        omega

private theorem length_inGroups (size count : Nat) (content : Bytes) :
    (inGroups size count content).length = count := by
  induction count generalizing content with
  | zero => rfl
  | succ count induction => exact congrArg Nat.succ (induction _)

private theorem length_scheduleCore (position : Nat) (constant : UInt8) {word : Bytes}
    (sized : word.length = wordSize) :
    (scheduleCore position constant word).length = wordSize := by
  unfold scheduleCore
  split
  · split
    · rfl
    · exact sized
  · split
    · exact (List.length_map substitute).trans sized
    · exact sized

/-- Words of a schedule that has enough of them to be extended. -/
structure Words (words : List Bytes) : Prop where
  sized : ∀ word ∈ words, word.length = wordSize
  enough : 8 ≤ words.length

private theorem words_extendSchedule {words : List Bytes} (valid : Words words)
    (count position : Nat) (constant : UInt8) :
    Words (extendSchedule count position constant words) ∧
      (extendSchedule count position constant words).length = count + words.length := by
  induction count generalizing position constant words with
  | zero => exact ⟨valid, (Nat.zero_add _).symm⟩
  | succ count induction =>
      have old : (words.getD 7 []).length = wordSize := by
        have there : 7 < words.length := valid.enough
        rw [List.getD_eq_getElem?_getD, List.getElem?_eq_getElem there]
        exact valid.sized _ (List.getElem_mem there)
      have last : (words.headD []).length = wordSize := by
        cases words with
        | nil => exact nomatch valid.enough
        | cons word rest => exact valid.sized word List.mem_cons_self
      have next : Words (xor (words.getD 7 [])
          (scheduleCore position constant (words.headD [])) :: words) := by
        refine ⟨List.forall_mem_cons.2 ⟨?_, valid.sized⟩, Nat.le_succ_of_le valid.enough⟩
        rw [length_xor, old, length_scheduleCore position constant last, Nat.min_self]
      have rest := induction next (position + 1)
        (if position % 8 = 0 then double constant else constant)
      exact ⟨rest.1, rest.2.trans (by rw [List.length_cons]; omega)⟩

/-- Keys of the size of a block. -/
def Keyed (keys : List Bytes) : Prop :=
  ∀ key ∈ keys, key.length = blockSize

theorem keyed_roundKeys {key : Bytes} (sized : key.length = 32) :
    Keyed (roundKeys key) := by
  intro round member
  have initial : Words (inGroups 4 8 key).reverse := by
    refine ⟨fun word here => ?_, ?_⟩
    · exact length_of_mem_inGroups (Nat.le_of_eq sized.symm) (List.mem_reverse.1 here)
    · exact Nat.le_of_eq (by rw [List.length_reverse, length_inGroups])
  rcases words_extendSchedule initial 52 8 1 with ⟨valid, length⟩
  refine length_of_mem_inGroups ?_ member
  have total : (extendSchedule 52 8 1 (inGroups 4 8 key).reverse).reverse.flatten.length =
      60 * wordSize := by
    have sized : ∀ word ∈ (extendSchedule 52 8 1 (inGroups 4 8 key).reverse).reverse,
        (id word).length = wordSize :=
      fun word here => valid.sized word (List.mem_reverse.1 here)
    rw [← List.flatMap_id, length_flatMap_of_forall sized, List.length_reverse, length,
      List.length_reverse, length_inGroups]
  exact Nat.le_of_eq total.symm

/-! Encryption makes blocks of blocks. -/

private theorem length_mixColumn (block : Bytes) :
    (mixColumn block).length = block.length := by
  induction block using mixColumn.induct with
  | case1 first second third fourth rest induction =>
      simp [mixColumn, induction]
  | case2 rest short =>
      rw [mixColumn]
      exact short

private theorem length_shiftRows (block : Bytes) : (shiftRows block).length = blockSize :=
  (List.length_map _).trans List.length_range

private theorem length_rounds {keys : List Bytes} (keyed : Keyed keys) {block : Bytes}
    (sized : block.length = blockSize) : (rounds block keys).length = blockSize := by
  induction block, keys using rounds.induct with
  | case1 block => exact sized
  | case2 block last =>
      rw [rounds, length_xor, length_shiftRows, keyed last List.mem_cons_self,
        Nat.min_self]
  | case3 block key keys more induction =>
      rw [rounds]
      · refine induction (fun other here => keyed other (List.mem_cons_of_mem _ here)) ?_
        rw [length_xor, length_mixColumn, length_shiftRows, keyed key List.mem_cons_self,
          Nat.min_self]
      · exact more

private theorem length_encryptBlock {keys : List Bytes} (keyed : Keyed keys)
    {block : Bytes} (sized : block.length = blockSize) :
    (encryptBlock keys block).length = blockSize := by
  cases keys with
  | nil => exact sized
  | cons first rest =>
      refine length_rounds (fun key here => keyed key (List.mem_cons_of_mem _ here)) ?_
      rw [length_xor, sized, keyed first List.mem_cons_self, Nat.min_self]

end Aes

namespace Gcm

theorem length_bytesOfNat (count value : Nat) : (bytesOfNat count value).length = count :=
  (List.length_map _).trans List.length_range

section Keyed

variable {keys : List Bytes} (keyed : Aes.Keyed keys) {nonce : Bytes}
  (sized : nonce.length = nonceSize)

include keyed sized

private theorem length_counterBlock (counter : Nat) :
    (Aes.encryptBlock keys (counterBlock nonce counter)).length = blockSize := by
  refine Aes.length_encryptBlock keyed ?_
  rw [counterBlock, List.length_append, sized, length_bytesOfNat]
  rfl

theorem le_length_keyStream (length : Nat) :
    length ≤ (keyStream keys nonce length).length := by
  rw [keyStream,
    length_flatMap_of_forall fun index _ => length_counterBlock keyed sized (index + 2),
    List.length_range, blockSize]
  omega

private theorem length_applyStream (content : Bytes) :
    (applyStream keys nonce content).length = content.length := by
  rw [applyStream, Aes.length_xor]
  exact Nat.min_eq_left (le_length_keyStream keyed sized content.length)

private theorem applyStream_applyStream (content : Bytes) :
    applyStream keys nonce (applyStream keys nonce content) = content := by
  rw [applyStream, length_applyStream keyed sized]
  exact Aes.xor_xor (le_length_keyStream keyed sized content.length)

private theorem length_tag (content : Bytes) :
    (tag keys nonce content).length = tagSize := by
  rw [tag, Aes.length_xor, length_counterBlock keyed sized, length_bytesOfNat]
  rfl

theorem decrypt?_eq_some_iff {content plain : Bytes} :
    decrypt? keys nonce content = some plain ↔ content = encrypt keys nonce plain := by
  constructor
  · intro decrypted
    unfold decrypt? at decrypted
    dsimp only at decrypted
    split at decrypted
    · cases decrypted
    · split at decrypted
      · rename_i genuine
        cases decrypted
        rw [encrypt, applyStream_applyStream keyed sized, genuine, List.take_append_drop]
      · cases decrypted
  · rintro rfl
    have body := length_applyStream keyed sized plain
    have ending := length_tag keyed sized (applyStream keys nonce plain)
    have front : (encrypt keys nonce plain).length - tagSize =
        (applyStream keys nonce plain).length := by
      rw [encrypt, List.length_append, ending, Nat.add_sub_cancel]
    have long : ¬ (encrypt keys nonce plain).length < tagSize := by
      rw [encrypt, List.length_append, ending]
      omega
    rw [decrypt?, if_neg long]
    dsimp only
    rw [front, encrypt, List.take_left, List.drop_left, if_pos rfl,
      applyStream_applyStream keyed sized]

end Keyed

end Gcm

end Gateway.Cipher
