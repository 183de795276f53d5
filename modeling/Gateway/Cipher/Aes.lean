import Gateway.Text.Utf8

namespace Gateway.Cipher.Aes

/-! The AES block cipher with keys of 32 bytes, in the encrypting direction. The
substitution is computed from its definition: the inverse in the field of 256
elements, followed by an affine map of its bits. Blocks are lists of sixteen
bytes, column after column. -/

def double (byte : UInt8) : UInt8 :=
  let shifted := byte <<< 1
  if byte &&& 0x80 = 0 then shifted else shifted ^^^ 0x1b

def multiplyBits : Nat → UInt8 → UInt8 → UInt8
  | 0, _, _ => 0
  | bits + 1, left, right =>
      let rest := multiplyBits bits (double left) (right >>> 1)
      if right &&& 1 = 0 then rest else left ^^^ rest

def multiply (left right : UInt8) : UInt8 :=
  multiplyBits 8 left right

/-! The inverse of a field element is its power with exponent 254; zero stays zero. -/

def inverse (byte : UInt8) : UInt8 :=
  let square := multiply byte byte
  let fourth := multiply square square
  let eighth := multiply fourth fourth
  let sixteenth := multiply eighth eighth
  let high := multiply sixteenth sixteenth
  let higher := multiply high high
  let highest := multiply higher higher
  [fourth, eighth, sixteenth, high, higher, highest].foldl multiply square

def rotateLeft (byte amount : UInt8) : UInt8 :=
  (byte <<< amount) ||| (byte >>> (8 - amount))

def affine (byte : UInt8) : UInt8 :=
  byte ^^^ rotateLeft byte 1 ^^^ rotateLeft byte 2 ^^^ rotateLeft byte 3 ^^^
    rotateLeft byte 4 ^^^ 0x63

def substitutions : Array UInt8 :=
  ((List.range 256).map (fun index => affine (inverse (UInt8.ofNat index)))).toArray

def substitute (byte : UInt8) : UInt8 :=
  substitutions.getD byte.toNat 0

example : [affine (inverse 0), affine (inverse 0x53), affine (inverse 0xff)] =
    [0x63, 0xed, 0x16] := by
  decide +kernel

def xor (left right : Bytes) : Bytes :=
  List.zipWith (fun first second => first ^^^ second) left right

/-! The key schedule: sixty words of four bytes, each made from the word before it
and the word eight places back. -/

def scheduleCore (position : Nat) (constant : UInt8) (word : Bytes) : Bytes :=
  if position % 8 = 0 then
    match word with
    | [first, second, third, fourth] =>
        [substitute second ^^^ constant, substitute third, substitute fourth,
          substitute first]
    | _ => word
  else if position % 8 = 4 then word.map substitute
  else word

/-! The words are held latest first. -/

def extendSchedule : Nat → Nat → UInt8 → List Bytes → List Bytes
  | 0, _, _, words => words
  | count + 1, position, constant, words =>
      let next := xor (words.getD 7 []) (scheduleCore position constant (words.headD []))
      let constant := if position % 8 = 0 then double constant else constant
      extendSchedule count (position + 1) constant (next :: words)

def inGroups (size : Nat) : Nat → Bytes → List Bytes
  | 0, _ => []
  | count + 1, content => content.take size :: inGroups size count (content.drop size)

def roundKeys (key : Bytes) : List Bytes :=
  let words := (extendSchedule 52 8 1 (inGroups 4 8 key).reverse).reverse
  inGroups 16 15 words.flatten

def shiftRows (block : Bytes) : Bytes :=
  (List.range 16).map (fun index => block.getD ((index + 4 * (index % 4)) % 16) 0)

def mixColumn : Bytes → Bytes
  | first :: second :: third :: fourth :: rest =>
      let all := first ^^^ second ^^^ third ^^^ fourth
      [first ^^^ all ^^^ double (first ^^^ second),
        second ^^^ all ^^^ double (second ^^^ third),
        third ^^^ all ^^^ double (third ^^^ fourth),
        fourth ^^^ all ^^^ double (fourth ^^^ first)] ++ mixColumn rest
  | rest => rest

def rounds (block : Bytes) : List Bytes → Bytes
  | [] => block
  | [last] => xor (shiftRows (block.map substitute)) last
  | key :: keys => rounds (xor (mixColumn (shiftRows (block.map substitute))) key) keys

def encryptBlock (keys : List Bytes) (block : Bytes) : Bytes :=
  match keys with
  | [] => block
  | first :: rest => rounds (xor block first) rest

end Gateway.Cipher.Aes
