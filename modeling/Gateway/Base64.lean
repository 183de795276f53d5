import Gateway.Text.Utf8

namespace Gateway.Base64

/-! Base64 over the standard alphabet. Writing never pads. Reading names the
first fault that it meets: whole groups of four symbols from the left, then the
last group, then its length, its padding and its unused bits. -/

def pad : UInt8 := 61

def symbol (value : Nat) : UInt8 :=
  if value < 26 then UInt8.ofNat (value + 65)
  else if value < 52 then UInt8.ofNat (value + 71)
  else if value < 62 then UInt8.ofNat (value - 4)
  else if value = 62 then 43
  else 47

def value? (byte : UInt8) : Option Nat :=
  let code := byte.toNat
  if 65 ≤ code ∧ code ≤ 90 then some (code - 65)
  else if 97 ≤ code ∧ code ≤ 122 then some (code - 71)
  else if 48 ≤ code ∧ code ≤ 57 then some (code + 4)
  else if code = 43 then some 62
  else if code = 47 then some 63
  else none

theorem value?_symbol {value : Nat} (bounded : value < 64) :
    value? (symbol value) = some value := by
  revert value
  decide

def encode : Bytes → Bytes
  | first :: second :: third :: rest =>
      symbol (first.toNat / 4) ::
        symbol (first.toNat % 4 * 16 + second.toNat / 16) ::
        symbol (second.toNat % 16 * 4 + third.toNat / 64) ::
        symbol (third.toNat % 64) :: encode rest
  | [first, second] =>
      [symbol (first.toNat / 4), symbol (first.toNat % 4 * 16 + second.toNat / 16),
        symbol (second.toNat % 16 * 4)]
  | [first] => [symbol (first.toNat / 4), symbol (first.toNat % 4 * 16)]
  | [] => []

inductive Fault where
  | invalidSymbol (byte : UInt8) (offset : Nat)
  | invalidLength (length : Nat)
  | invalidLastSymbol (byte : UInt8) (offset : Nat)
  | invalidPadding
  deriving Repr, DecidableEq

def Fault.message : Fault → String
  | .invalidSymbol byte offset => s!"Invalid symbol {byte}, offset {offset}."
  | .invalidLength length => s!"Invalid input length: {length}"
  | .invalidLastSymbol byte offset => s!"Invalid last symbol {byte}, offset {offset}."
  | .invalidPadding => "Invalid padding"

/-! Whether a last group that is not full needs padding symbols. -/

inductive Padding where
  | required
  | indifferent
  deriving Repr, DecidableEq

def valueAt (byte : UInt8) (offset : Nat) : Except Fault Nat :=
  match value? byte with
  | some value => .ok value
  | none => .error (.invalidSymbol byte offset)

def group (first second third fourth : Nat) : Bytes :=
  [UInt8.ofNat (first * 4 + second / 16), UInt8.ofNat (second % 16 * 16 + third / 4),
    UInt8.ofNat (third % 4 * 64 + fourth)]

/-! Reads the symbols of the last group and counts the padding after them. -/

def readLast (offset : Nat) (symbols : Bytes) (padding : Nat) :
    Bytes → Except Fault (Bytes × Nat)
  | [] => .ok (symbols, padding)
  | byte :: rest =>
      let position := symbols.length + padding
      if byte = pad then
        if position < 2 then .error (.invalidSymbol byte (offset + position))
        else readLast offset symbols (padding + 1) rest
      else if 0 < padding then .error (.invalidSymbol pad (offset + symbols.length))
      else
        match value? byte with
        | none => .error (.invalidSymbol byte (offset + position))
        | some _ => readLast offset (symbols ++ [byte]) padding rest

/-! The bytes that the symbols of the last group stand for. -/

def finish (offset : Nat) (symbols : Bytes) : Except Fault Bytes :=
  match symbols, symbols.filterMap value? with
  | [_, last], [first, second] =>
      if second % 16 = 0 then .ok [UInt8.ofNat (first * 4 + second / 16)]
      else .error (.invalidLastSymbol last (offset + 1))
  | [_, _, last], [first, second, third] =>
      if third % 4 = 0 then
        .ok [UInt8.ofNat (first * 4 + second / 16),
          UInt8.ofNat (second % 16 * 16 + third / 4)]
      else .error (.invalidLastSymbol last (offset + 2))
  | _, [first, second, third, fourth] => .ok (group first second third fourth)
  | _, _ => .error (.invalidLength (offset + symbols.length))

def decodeLast (policy : Padding) (offset : Nat) (content : Bytes) : Except Fault Bytes :=
  if content.isEmpty then .ok []
  else do
    let (symbols, padding) ← readLast offset [] 0 content
    if symbols.length < 2 then .error (.invalidLength (offset + symbols.length))
    else if policy = .required ∧ (symbols.length + padding) % 4 ≠ 0 then
      .error .invalidPadding
    else finish offset symbols

def decodeGroups (policy : Padding) (offset : Nat) : Bytes → Except Fault Bytes
  | first :: second :: third :: fourth :: next :: rest => do
      let a ← valueAt first offset
      let b ← valueAt second (offset + 1)
      let c ← valueAt third (offset + 2)
      let d ← valueAt fourth (offset + 3)
      let remaining ← decodeGroups policy (offset + 4) (next :: rest)
      .ok (group a b c d ++ remaining)
  | last => decodeLast policy offset last

/-! A single byte after the last full group is reported first when it is no
symbol at all. -/

def decode (policy : Padding) (content : Bytes) : Except Fault Bytes :=
  match content.getLast? with
  | some last =>
      if content.length % 4 = 1 ∧ last ≠ pad ∧ value? last = none then
        .error (.invalidSymbol last (content.length - 1))
      else decodeGroups policy 0 content
  | none => .ok []

example : encode (Text.bytes "d1") = Text.bytes "ZDE" := by decide +kernel

end Gateway.Base64
