namespace Gateway

abbrev Bytes := List UInt8

namespace Text

/-! Text as bytes. Reading is exact: bytes that are no well-formed UTF-8 give
nothing. -/

def bytes (text : String) : Bytes :=
  text.toUTF8.data.toList

def ofBytes? (content : Bytes) : Option String :=
  String.fromUTF8? ⟨content.toArray⟩

/-! Tolerant reading: every longest run of bytes that begins a character without
finishing it is replaced by one replacement character, and so is every byte
that can begin none. The reader takes one byte at a time; `Unfinished` is what
it has seen of the current character. -/

structure Unfinished where
  missing : Nat
  value : Nat
  low : Nat := 0x80
  high : Nat := 0xbf
  deriving Repr, DecidableEq

def replacement : Char := '\ufffd'

def beginCharacter (byte : UInt8) : List Char × Option Unfinished :=
  let code := byte.toNat
  if code < 0x80 then ([Char.ofNat code], none)
  else if code < 0xc2 then ([replacement], none)
  else if code < 0xe0 then ([], some { missing := 1, value := code - 0xc0 })
  else if code = 0xe0 then ([], some { missing := 2, value := 0, low := 0xa0 })
  else if code = 0xed then ([], some { missing := 2, value := 0xd, high := 0x9f })
  else if code < 0xf0 then ([], some { missing := 2, value := code - 0xe0 })
  else if code = 0xf0 then ([], some { missing := 3, value := 0, low := 0x90 })
  else if code < 0xf4 then ([], some { missing := 3, value := code - 0xf0 })
  else if code = 0xf4 then ([], some { missing := 3, value := 4, high := 0x8f })
  else ([replacement], none)

def continueCharacter (unfinished : Unfinished) (byte : UInt8) :
    List Char × Option Unfinished :=
  let code := byte.toNat
  if unfinished.low ≤ code ∧ code ≤ unfinished.high then
    let value := unfinished.value * 64 + (code - 0x80)
    if unfinished.missing ≤ 1 then ([Char.ofNat value], none)
    else ([], some { missing := unfinished.missing - 1, value })
  else
    let (characters, next) := beginCharacter byte
    (replacement :: characters, next)

def decodeTolerantly : Option Unfinished → Bytes → List Char
  | none, [] => []
  | some _, [] => [replacement]
  | unfinished, byte :: rest =>
      let (characters, next) :=
        match unfinished with
        | none => beginCharacter byte
        | some unfinished => continueCharacter unfinished byte
      characters ++ decodeTolerantly next rest

def ofBytesTolerantly (content : Bytes) : String :=
  String.ofList (decodeTolerantly none content)

end Text

end Gateway
