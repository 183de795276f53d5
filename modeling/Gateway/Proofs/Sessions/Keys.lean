import Gateway.Affinity.Protector
import Gateway.Proofs.Base64
import Gateway.Proofs.Sessions.Cookies

namespace Gateway

/-! The text of a key: what a client is given, and what is made of it when the client
brings it back. -/

namespace Protector

/-- A protector restores what it protects, here the key of a session. What it makes of
the key in between is never empty. -/
def Restores (protector : Protector) (key : String) : Prop :=
  ∀ serial, ∃ content, content ≠ [] ∧
    protector.protect serial (Text.bytes key) = .ok content ∧
    protector.unprotect content = .ok (Text.bytes key)

def keyText (content : Bytes) : String :=
  Text.ofAscii (Base64.encode content)

theorem protectKey_of_protect {protector : Protector} {serial : Nat} {key : String}
    {content : Bytes}
    (protects : protector.protect serial (Text.bytes key) = .ok content) :
    protector.protectKey serial key = .ok (keyText content) := by
  rw [protectKey, protects]
  rfl

theorem of_symbols {property : UInt8 → Prop}
    (symbols : ∀ value < 64, property (Base64.symbol value)) {content : Bytes} :
    ∀ byte ∈ Base64.encode content, property byte := by
  intro byte member
  rcases Base64.mem_encode member with ⟨value, bounded, rfl⟩
  exact symbols value bounded

theorem bytes_keyText (content : Bytes) :
    Text.bytes (keyText content) = Base64.encode content :=
  Text.bytes_ofAscii (of_symbols (by decide))

theorem ofBytesTolerantly_keyText (content : Bytes) :
    Text.ofBytesTolerantly (Text.bytes (keyText content)) = keyText content := by
  rw [bytes_keyText]
  exact Text.ofBytesTolerantly_of_ascii (of_symbols (by decide))

theorem recoverKey_keyText {protector : Protector} {key : String} {content : Bytes}
    (restores : protector.unprotect content = .ok (Text.bytes key)) :
    protector.recoverKey (keyText content) = .ok key := by
  rw [recoverKey, bytes_keyText, Base64.decode_encode]
  simp only [restores, bind, Except.bind, Text.ofBytes?_bytes]

theorem writable_keyText (content : Bytes) : Http.Header.Writable (keyText content) := by
  rw [Http.Header.Writable, bytes_keyText]
  exact List.all_eq_true.2 (of_symbols (by decide))

theorem isEmpty_keyText {content : Bytes} (filled : content ≠ []) :
    (keyText content).isEmpty = false := by
  refine Bool.eq_false_iff.2 fun empty => filled (Base64.encode_eq_nil_iff.1 ?_)
  rw [← bytes_keyText, String.isEmpty_iff.1 empty]
  rfl

private theorem mem_keyText {content : Bytes} {character : Char}
    (member : character ∈ (keyText content).toList) :
    ∃ value, value < 64 ∧ character = Char.ofNat (Base64.symbol value).toNat := by
  rw [keyText, Text.ofAscii, String.toList_ofList] at member
  rcases List.mem_map.1 member with ⟨byte, here, rfl⟩
  rcases Base64.mem_encode here with ⟨value, bounded, rfl⟩
  exact ⟨value, bounded, rfl⟩

theorem of_mem_keyText {content : Bytes} {character : Char}
    (member : character ∈ (keyText content).toList) :
    Text.isBlank character = false ∧ character ≠ ';' ∧ character ≠ '"' := by
  rcases mem_keyText member with ⟨value, bounded, rfl⟩
  clear member
  revert value
  decide

theorem unsigned_keyText (content : Bytes) : '=' ∉ (keyText content).toList := by
  intro member
  rcases mem_keyText member with ⟨value, bounded, same⟩
  clear member
  revert value
  decide

end Protector

end Gateway
