import Gateway.Proofs.Base64.Canonical
import Gateway.Proofs.Cipher
import Gateway.Proofs.Sessions.Keys
import Gateway.Rehearsal.Policies

namespace Gateway.Protector

/-! Which texts stand for a key. A key is recovered from the text that it was given to a
client as, padded or not, and from no other text. -/

/-- A protector makes out what it protected, whatever it protected before. -/
def Opens (protector : Protector) : Prop :=
  ∀ serial plain content, protector.protect serial plain = .ok content →
    protector.unprotect content = .ok plain

/-- What a protector makes out of a content it protects as that content again. -/
def Seals (protector : Protector) (serial : Nat) : Prop :=
  ∀ content plain, protector.unprotect content = .ok plain →
    protector.protect serial plain = .ok content

def padded (text : String) (count : Nat) : String :=
  text ++ String.ofList (List.replicate count '=')

def unpadded (text : String) : String :=
  String.ofList (Text.trimRight (fun character => character == '=') text.toList)

private theorem bytes_padded (content : Bytes) (count : Nat) :
    Text.bytes (padded (keyText content) count) =
      Base64.encode content ++ List.replicate count Base64.pad := by
  have signs : Text.bytes (String.ofList (List.replicate count '=')) =
      List.replicate count Base64.pad := by
    rw [Text.bytes_ofList_of_ascii, List.map_replicate]
    · rfl
    · intro character member
      rw [List.eq_of_mem_replicate member]
      decide
  rw [padded, Text.bytes_append, bytes_keyText, signs]

theorem unpadded_padded (content : Bytes) (count : Nat) :
    unpadded (padded (keyText content) count) = keyText content := by
  have kept : ∀ character, (keyText content).toList.getLast? = some character →
      (character == '=') = false := by
    rintro character last
    refine beq_eq_false_iff_ne.2 ?_
    rintro rfl
    exact unsigned_keyText content (List.mem_of_getLast? last)
  have dropped : ∀ character ∈ List.replicate count '=', (character == '=') = true :=
    fun character member => beq_iff_eq.2 (List.eq_of_mem_replicate member)
  rw [unpadded, padded, String.toList_append, String.toList_ofList,
    Text.trimRight_append kept, Text.trimRight_of_all dropped, List.append_nil,
    String.ofList_toList]

/-- The texts that a key is recovered from are the written forms of what the protector
makes out as the key, padded or not. -/
theorem recoverKey_eq_ok_iff {protector : Protector} {text key : String} :
    protector.recoverKey text = .ok key ↔
      ∃ content count, protector.unprotect content = .ok (Text.bytes key) ∧
        count ≤ Base64.vacancy (Text.bytes (keyText content)) ∧
        text = padded (keyText content) count := by
  constructor
  · intro recovered
    unfold recoverKey at recovered
    split at recovered
    · cases recovered
    · rename_i content decoded
      rcases bind_eq_ok.1 recovered with ⟨plain, restored, read⟩
      split at read
      · rename_i other found
        cases read
        rw [Text.ofBytes?_eq_some_iff.1 found] at restored
        rcases Base64.decode_eq_ok_iff.1 decoded with ⟨count, fits, spelled⟩
        refine ⟨content, count, restored, ?_, ?_⟩
        · rw [bytes_keyText]
          exact fits
        · exact Text.bytes_injective (spelled.trans (bytes_padded content count).symm)
      · cases read
  · rintro ⟨content, count, restores, fits, rfl⟩
    rw [bytes_keyText] at fits
    rw [recoverKey, bytes_padded, Base64.decode_padded content fits]
    simp only [restores, bind, Except.bind, Text.ofBytes?_bytes]

theorem recovers_of_opens {protector : Protector} (opens : protector.Opens) {serial : Nat}
    {key : String} {content : Bytes}
    (protects : protector.protect serial (Text.bytes key) = .ok content) :
    ∃ text, protector.protectKey serial key = .ok text ∧ '=' ∉ text.toList ∧
      ∀ count, count ≤ Base64.vacancy (Text.bytes text) →
        protector.recoverKey (padded text count) = .ok key := by
  refine ⟨keyText content, protectKey_of_protect protects, unsigned_keyText content, ?_⟩
  intro count fits
  exact recoverKey_eq_ok_iff.2 ⟨content, count, opens serial _ content protects,
    fits, rfl⟩

theorem written_of_seals {protector : Protector} {serial : Nat}
    (seals : protector.Seals serial) {text key : String}
    (recovers : protector.recoverKey text = .ok key) :
    protector.protectKey serial key = .ok (unpadded text) ∧
      ∃ count, count ≤ Base64.vacancy (Text.bytes (unpadded text)) ∧
        text = padded (unpadded text) count := by
  rcases recoverKey_eq_ok_iff.1 recovers with ⟨content, count, restores, fits, rfl⟩
  rw [unpadded_padded]
  exact ⟨protectKey_of_protect (seals content _ restores), count, fits, rfl⟩

/-! Encrypted keys. The nonce that was drawn stands in front of the content, so that one
key has a text for every nonce. -/

open Cipher

section Encrypted

variable {secret : Bytes} (sized : secret.length = keySize)

include sized

private theorem unprotect_encrypting_eq_ok_iff {content plain : Bytes} :
    (encrypting secret).unprotect content = .ok plain ↔
      ∃ nonce, nonce.length = Gcm.nonceSize ∧
        content = nonce ++ Gcm.encrypt (Aes.roundKeys secret) nonce plain := by
  have keyed := Aes.keyed_roundKeys sized
  change (if content.length < Gcm.nonceSize then _ else _) = _ ↔ _
  constructor
  · intro restored
    split at restored
    · cases restored
    · rename_i long
      have drawn : (content.take Gcm.nonceSize).length = Gcm.nonceSize :=
        List.length_take_of_le (Nat.le_of_not_lt long)
      split at restored
      · rename_i decrypted
        cases restored
        refine ⟨_, drawn, ?_⟩
        rw [← (Gcm.decrypt?_eq_some_iff keyed drawn).1 decrypted, List.take_append_drop]
      · cases restored
  · rintro ⟨nonce, drawn, rfl⟩
    have decrypted :=
      (Gcm.decrypt?_eq_some_iff keyed drawn).2 (Eq.refl (Gcm.encrypt _ nonce plain))
    rw [if_neg (by rw [List.length_append, drawn]; omega), List.take_left' drawn,
      List.drop_left' drawn, decrypted]

private theorem opens_encrypting : (encrypting secret).Opens := by
  intro serial plain content protects
  cases protects
  exact (unprotect_encrypting_eq_ok_iff sized).2 ⟨_, Gcm.length_bytesOfNat _ serial, rfl⟩

end Encrypted

/-- The text of a key under a secret and a nonce. -/
def sealedText (secret nonce : Bytes) (key : String) : String :=
  keyText (nonce ++ Gcm.encrypt (Aes.roundKeys secret) nonce (Text.bytes key))

/-- A key has one written form: without a padding sign, and recovered as it stands or
padded up to a full last group. What else could be read as that key is refused: a text
that a key is recovered from is its written form, padding apart. Under encryption the key
has one written form for every nonce, and these are all. -/
theorem key_texts_exact :
    (∀ protector : Protector, protector.Opens → ∀ serial key content,
      protector.protect serial (Text.bytes key) = .ok content →
      ∃ text, protector.protectKey serial key = .ok text ∧ '=' ∉ text.toList ∧
        ∀ count, count ≤ Base64.vacancy (Text.bytes text) →
          protector.recoverKey (padded text count) = .ok key) ∧
    (∀ (protector : Protector) (serial : Nat), protector.Seals serial → ∀ text key,
      protector.recoverKey text = .ok key →
      protector.protectKey serial key = .ok (unpadded text) ∧
        ∃ count, count ≤ Base64.vacancy (Text.bytes (unpadded text)) ∧
          text = padded (unpadded text) count) ∧
    ∀ secret, secret.length = keySize →
      (encrypting secret).Opens ∧
      ∀ key,
        (∀ serial, ∃ nonce, nonce.length = Gcm.nonceSize ∧
          (encrypting secret).protectKey serial key = .ok (sealedText secret nonce key)) ∧
        ∀ text, (encrypting secret).recoverKey text = .ok key ↔
          ∃ nonce count, nonce.length = Gcm.nonceSize ∧
            count ≤ Base64.vacancy (Text.bytes (sealedText secret nonce key)) ∧
            text = padded (sealedText secret nonce key) count := by
  refine ⟨fun protector opens serial key content => recovers_of_opens opens,
    fun protector serial seals text key => written_of_seals seals, fun secret sized =>
      ⟨opens_encrypting sized, fun key => ⟨fun serial => ?_, fun text => ?_⟩⟩⟩
  · exact ⟨_, Gcm.length_bytesOfNat _ serial, protectKey_of_protect rfl⟩
  · rw [recoverKey_eq_ok_iff]
    constructor
    · rintro ⟨content, count, restores, fits, rfl⟩
      rcases (unprotect_encrypting_eq_ok_iff sized).1 restores with ⟨nonce, drawn, rfl⟩
      exact ⟨nonce, count, drawn, fits, rfl⟩
    · rintro ⟨nonce, count, drawn, fits, rfl⟩
      exact ⟨_, count, (unprotect_encrypting_eq_ok_iff sized).2 ⟨nonce, drawn, rfl⟩,
        fits, rfl⟩

/-- Two bytes leave room for one padding sign, and encryption takes any secret of its
size. -/
theorem key_texts_exact_of_two_bytes :
    let plain := Rehearsal.identityProtector
    (plain.Opens ∧ plain.protect 0 (Text.bytes "d1") = .ok (Text.bytes "d1") ∧
      plain.protectKey 0 "d1" = .ok "ZDE" ∧ Base64.vacancy (Text.bytes "ZDE") = 1 ∧
      plain.recoverKey "ZDE=" = .ok "d1") ∧
    (plain.Seals 0 ∧ unpadded "ZDE=" = "ZDE") ∧
    (List.replicate 32 (7 : UInt8)).length = keySize ∧
      (encrypting (List.replicate 32 7)).Opens := by
  intro plain
  have opens : plain.Opens := fun _ _ _ protects => by
    cases protects
    rfl
  have seals : plain.Seals 0 := fun _ _ restores => by
    cases restores
    rfl
  rcases key_texts_exact with ⟨writes, reads, encrypted⟩
  rcases writes plain opens 0 "d1" _ rfl with ⟨text, written, -, recovers⟩
  have spelled : plain.protectKey 0 "d1" = .ok "ZDE" := rfl
  cases written.symm.trans spelled
  have room : Base64.vacancy (Text.bytes "ZDE") = 1 := by decide +kernel
  have recovered : plain.recoverKey "ZDE=" = .ok "d1" :=
    recovers 1 (Nat.le_of_eq room.symm)
  have stripped := (reads plain 0 seals "ZDE=" "d1" recovered).1
  have sized : (List.replicate 32 (7 : UInt8)).length = keySize := List.length_replicate
  exact ⟨⟨opens, rfl, spelled, room, recovered⟩,
    ⟨seals, Except.ok.inj (stripped.symm.trans spelled)⟩, sized, (encrypted _ sized).1⟩

end Gateway.Protector
