import Gateway.Cipher.Aes

namespace Gateway.Cipher

/-! Authenticated encryption: AES in Galois counter mode, with nonces of twelve
bytes, tags of sixteen bytes and no associated data. -/

namespace Gcm

def nonceSize : Nat := 12

def tagSize : Nat := 16

def blockSize : Nat := 16

def natOfBytes (content : Bytes) : Nat :=
  content.foldl (fun value byte => value * 256 + byte.toNat) 0

def bytesOfNat (count value : Nat) : Bytes :=
  (List.range count).map (fun index => UInt8.ofNat (value >>> (8 * (count - 1 - index))))

/-! Products in the field of the authentication hash, where the first bit of a
block is its highest one. -/

def reduction : Nat := 0xe1 <<< 120

def halve (value : Nat) : Nat :=
  if value % 2 = 0 then value / 2 else (value / 2) ^^^ reduction

def multiplyBits : Nat → Nat → Nat → Nat → Nat
  | 0, _, _, product => product
  | bits + 1, left, right, product =>
      multiplyBits bits left (halve right)
        (if left.testBit bits then product ^^^ right else product)

def multiply (left right : Nat) : Nat :=
  multiplyBits 128 left right 0

/-! The content in blocks; the last one is filled up with zeros. -/

def blocks (content : Bytes) : List Bytes :=
  (List.range ((content.length + blockSize - 1) / blockSize)).map (fun index =>
    let block := (content.drop (index * blockSize)).take blockSize
    block ++ List.replicate (blockSize - block.length) 0)

def hash (hashKey : Nat) (content : Bytes) : Nat :=
  let lengths := bytesOfNat blockSize (content.length * 8)
  (blocks content ++ [lengths]).foldl
    (fun value block => multiply (value ^^^ natOfBytes block) hashKey) 0

/-! The bytes that counter mode combines with the content: the encrypted counter
blocks, of which the first one is set aside for the tag. -/

def counterBlock (nonce : Bytes) (counter : Nat) : Bytes :=
  nonce ++ bytesOfNat 4 counter

def keyStream (keys : List Bytes) (nonce : Bytes) (length : Nat) : Bytes :=
  (List.range ((length + blockSize - 1) / blockSize)).flatMap
    (fun index => Aes.encryptBlock keys (counterBlock nonce (index + 2)))

def applyStream (keys : List Bytes) (nonce content : Bytes) : Bytes :=
  Aes.xor content (keyStream keys nonce content.length)

def tag (keys : List Bytes) (nonce sealedContent : Bytes) : Bytes :=
  let hashKey := natOfBytes (Aes.encryptBlock keys (List.replicate blockSize 0))
  Aes.xor (Aes.encryptBlock keys (counterBlock nonce 1))
    (bytesOfNat tagSize (hash hashKey sealedContent))

def encrypt (keys : List Bytes) (nonce plain : Bytes) : Bytes :=
  let sealedContent := applyStream keys nonce plain
  sealedContent ++ tag keys nonce sealedContent

/-! Nothing is returned unless the tag at the end is the content's own. -/

def decrypt? (keys : List Bytes) (nonce content : Bytes) : Option Bytes :=
  if content.length < tagSize then none
  else
    let sealedContent := content.take (content.length - tagSize)
    if tag keys nonce sealedContent = content.drop (content.length - tagSize) then
      some (applyStream keys nonce sealedContent)
    else none

end Gcm

end Gateway.Cipher
