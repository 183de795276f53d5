import Gateway.Text.Escaped

namespace Gateway.Text

/-! Text as it is quoted in messages: between double quotes, with a backslash
before a quote or a backslash, short names for the common control characters,
and the number in braces for every other character that has no shape of its
own. -/

def hexDigits (number : Nat) : List Char :=
  Nat.toDigits 16 number

def quotedCharacter (character : Char) : List Char :=
  match character with
  | '"' => ['\\', '"']
  | '\\' => ['\\', '\\']
  | '\n' => ['\\', 'n']
  | '\r' => ['\\', 'r']
  | '\t' => ['\\', 't']
  | '\x00' => ['\\', '0']
  | _ =>
      if character.toNat < 0x20 || (0x7f ≤ character.toNat && isEscaped character) then
        ['\\', 'u', '\x7b'] ++ hexDigits character.toNat ++ ['\x7d']
      else [character]

def quoted (text : String) : String :=
  String.ofList ('"' :: text.toList.flatMap quotedCharacter ++ ['"'])

/-! A list of texts, each quoted, in brackets. -/

def quotedList (texts : List String) : String :=
  "[" ++ String.intercalate ", " (texts.map quoted) ++ "]"

example : quotedList ["d1", "a\nb"] = "[\"d1\", \"a\\nb\"]" := by decide +kernel

end Gateway.Text
