import Gateway.Base64
import Gateway.Cipher.Gcm
import Gateway.Fault.Configuration
import Gateway.Fault.Protection
import Gateway.Text.Blank

namespace Gateway

/-! Protectors keep affinity keys unreadable and unforgeable for clients. To
protect a payload a protector is told how many payloads were protected before,
so that it never uses a nonce twice. -/

structure Protector where
  /-- What is shown of the protector; it holds no part of its key. -/
  label : String
  protect : (serial : Nat) → Bytes → Except ProtectionFault Bytes
  unprotect : Bytes → Except ProtectionFault Bytes

namespace Protector

open Cipher

/-- Authenticated encryption; the nonce stands before the encrypted payload. -/
def encrypting (key : Bytes) : Protector :=
  let keys := Aes.roundKeys key
  { label := "AesGcmProtector"
    protect := fun serial plain =>
      let nonce := Gcm.bytesOfNat Gcm.nonceSize serial
      .ok (nonce ++ Gcm.encrypt keys nonce plain)
    unprotect := fun content =>
      if content.length < Gcm.nonceSize then .error .truncated
      else
        match Gcm.decrypt? keys (content.take Gcm.nonceSize)
          (content.drop Gcm.nonceSize) with
        | some plain => .ok plain
        | none => .error .authentication }

def keySize : Nat := 32

/-- The protector of a key that is given in padded base64, with blanks around it. -/
def ofKeyText (text : String) : Except ConfigurationFault Protector :=
  let content := Text.bytes (String.ofList (Text.trim text.toList))
  match Base64.decode .required content with
  | .error fault => .error (.invalidProtectionKey fault.message)
  | .ok key =>
      if key.length = keySize then .ok (encrypting key)
      else .error (.invalidProtectionKey s!"expected {keySize} bytes, got {key.length}")

/-! Keys as text: the protected bytes in base64 without padding. -/

def protectKey (protector : Protector) (serial : Nat) (key : String) :
    Except ProtectionFault String := do
  let content ← protector.protect serial (Text.bytes key)
  .ok (String.ofList ((Base64.encode content).map (fun byte => Char.ofNat byte.toNat)))

def recoverKey (protector : Protector) (encoded : String) :
    Except ProtectionFault String :=
  match Base64.decode .indifferent (Text.bytes encoded) with
  | .error fault => .error (.encoding fault)
  | .ok content => do
      let plain ← protector.unprotect content
      match Text.ofBytes? plain with
      | some key => .ok key
      | none => .error .invalidKey

end Protector

end Gateway
