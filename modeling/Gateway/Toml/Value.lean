import Gateway.Toml.Number
import Gateway.Toml.Token

namespace Gateway.Toml

/-! The values of a settings file, read from tokens. Every reader returns the
tokens that follow what it took. -/

abbrev Tokens := List Token

def skipBlank : Tokens → Tokens
  | .blank _ :: rest => rest
  | tokens => tokens

def expect? (token : Token) : Tokens → Option Tokens
  | [] => none
  | head :: rest => if head = token then some rest else none

def word? : Tokens → Option (String × Tokens)
  | .word text :: rest => some (text, rest)
  | _ => none

/-! Points in time. Only their outline is checked: a date, a time of three parts
with an optional fraction, and an optional offset. -/

/-- The text of a part that a mark announces; without the mark it is empty. -/
def optionalPart? (mark : Token) (shown : String) (tokens : Tokens) :
    Option (String × Tokens) :=
  match expect? mark tokens with
  | none => some ("", tokens)
  | some rest => do
      let (text, rest) ← word? rest
      some (shown ++ text, rest)

/-- Minutes, seconds and what may follow them, after the first colon. -/
def timeParts? (tokens : Tokens) : Option (String × Tokens) := do
  let (minutes, rest) ← word? tokens
  let (seconds, rest) ← word? (← expect? .colon rest)
  let (fraction, rest) ← optionalPart? .period "." rest
  let (offset, rest) ← optionalPart? .plus "+" rest
  let (offsetMinutes, rest) ← optionalPart? .colon ":" rest
  some (minutes ++ ":" ++ seconds ++ fraction ++ offset ++ offsetMinutes, rest)

/-- A point in time that begins with a given text. A single space may separate
the date from the time. -/
def moment? (beginning : String) (inTime : Bool) (tokens : Tokens) :
    Option (Document × Tokens) :=
  let (beginning, tokens) :=
    match tokens with
    | .blank " " :: .word hour :: rest => (beginning ++ " " ++ hour, rest)
    | tokens => (beginning, tokens)
  if inTime then do
    let (time, rest) ← timeParts? tokens
    some (.moment (beginning ++ time), rest)
  else
    match expect? .colon tokens with
    | none => some (.moment beginning, tokens)
    | some rest => do
        let (time, rest) ← timeParts? rest
        some (.moment (beginning ++ ":" ++ time), rest)

/-! Numbers. The tokens of a number are split at its point and at a plus sign. -/

/-- A power of ten at the end of a number, which ends with the given text. -/
def exponent? (ending : List Char) (tokens : Tokens) : Option (Int × Tokens) :=
  match ending with
  | [] => some (0, tokens)
  | mark :: rest =>
      if mark = 'e' ∨ mark = 'E' then
        if rest.isEmpty then do
          let tokens := (expect? .plus tokens).getD tokens
          let (digits, tokens) ← word? tokens
          some (← Number.exponentOf? false digits.toList, tokens)
        else do some (← Number.exponentOf? true rest, tokens)
      else none

def float? (word : List Char) (fraction : Option (List Char)) (tokens : Tokens) :
    Option (Document × Tokens) := do
  let (_, whole, ending) ← Number.split? Number.decimalForm word
  match fraction with
  | none => do
      let (exponent, tokens) ← exponent? ending tokens
      some (← Number.finite? whole [] exponent, tokens)
  | some fraction =>
      if ending.isEmpty then do
        let (_, digits, ending) ← Number.split? { leadingZeros := true } fraction
        let (exponent, tokens) ← exponent? ending tokens
        some (← Number.finite? whole digits exponent, tokens)
      else none

def number? (word : List Char) (tokens : Tokens) : Option (Document × Tokens) :=
  let whole (form : Number.Form) : Option (Document × Tokens) :=
    (Number.integer? form (word.drop 2)).map (fun value => (value, tokens))
  if word.take 2 = ['0', 'x'] then whole { radix := 16, leadingZeros := true }
  else if word.take 2 = ['0', 'o'] then whole { radix := 8, leadingZeros := true }
  else if word.take 2 = ['0', 'b'] then whole { radix := 2, leadingZeros := true }
  else if word.contains 'e' || word.contains 'E' then float? word none tokens
  else
    match expect? .period tokens with
    | some rest => do
        let (fraction, rest) ← word? rest
        float? word (some fraction.toList) rest
    | none =>
        if ["inf", "-inf", "nan", "-nan"].contains (String.ofList word) then
          some (.other, tokens)
        else (Number.integer? Number.decimalForm word).map (fun value => (value, tokens))

def looksLikeDate (word : List Char) : Bool :=
  let exponent := word.zip (word.drop 1) |>.any (fun pair =>
    (pair.1 == 'e' || pair.1 == 'E') && pair.2 == '-')
  word.contains 'T' || word.contains 't' || ((word.drop 1).contains '-' && !exponent)

def wordValue? (text : String) (tokens : Tokens) : Option (Document × Tokens) :=
  let word := text.toList
  if text = "true" then some (.boolean true, tokens)
  else if text = "false" then some (.boolean false, tokens)
  else if text = "inf" ∨ text = "nan" ∨ (word.head?.any (fun first =>
      first == '-' || Decimal.isDigit first)) then
    if looksLikeDate word then moment? text false tokens
    else
      match expect? .colon tokens with
      | some rest => moment? (text ++ ":") true rest
      | none => number? word tokens
  else none

/-! Keys: bare or quoted words with points between them. -/

def key? : Tokens → Option (String × Tokens)
  | .word text :: rest => some (text, rest)
  | .quoted text false :: rest => some (text, rest)
  | _ => none

/-- The parts of a key after its first one, at most as many as the first argument
says. -/
def keyParts? : Nat → Tokens → Option (List String × Tokens)
  | 0, tokens => some ([], tokens)
  | count + 1, tokens =>
      match expect? .period (skipBlank tokens) with
      | none => some ([], skipBlank tokens)
      | some rest => do
          let (part, rest) ← key? (skipBlank rest)
          let (parts, rest) ← keyParts? count rest
          some (part :: parts, rest)

def dottedKey? (tokens : Tokens) : Option ((String × List String) × Tokens) := do
  let (part, rest) ← key? tokens
  let (parts, rest) ← keyParts? rest.length rest
  some ((part, parts), rest)

/-! A value under a key of several parts goes into a table that such keys have
made. A table that was written out cannot be added to. -/

def nested : List String → Document → Document
  | [], value => value
  | part :: parts, value => .table false [(part, nested parts value)]

mutual

def insertWithin? (parts : List String) (value : Document) (target : Document) :
    Option Document :=
  match parts, target with
  | part :: parts, .table false entries =>
      (insertAt? part parts value entries).map (Document.table false)
  | _, _ => none
termination_by (parts.length, 0)

/-- Adds a value to the entries of a table. -/
def insertAt? (part : String) (parts : List String) (value : Document)
    (entries : List (String × Document)) : Option (List (String × Document)) :=
  if parts.isEmpty then some (entries ++ [(part, value)])
  else
    match entries with
    | [] => some [(part, nested parts value)]
    | entry :: rest =>
        if entry.1 = part then
          (insertWithin? parts value entry.2).map (fun changed =>
            (entry.1, changed) :: rest)
        else (insertAt? part parts value rest).map (entry :: ·)
termination_by (parts.length, entries.length + 1)

end

/-! Lists may run over several lines and have comments; inline tables may not. -/

def skipLines : Tokens → Tokens
  | .blank _ :: rest | .newline :: rest => skipLines rest
  | .comment :: .newline :: rest => skipLines rest
  | [.comment] => []
  | tokens => tokens

mutual

def value? : Nat → Tokens → Option (Document × Tokens)
  | 0, _ => none
  | depth + 1, tokens =>
      match tokens with
      | .quoted text _ :: rest => some (.text text, rest)
      | .word text :: rest => wordValue? text rest
      | .plus :: .word text :: rest => number? text.toList rest
      | .leftBrace :: rest =>
          match skipBlank rest with
          | .rightBrace :: rest => some (.table true [], rest)
          | rest => (inlineEntries? depth [] rest).map (fun (entries, rest) =>
              (.table true entries, rest))
      | .leftBracket :: rest =>
          (items? depth rest).map (fun (items, rest) => (.list items, rest))
      | _ => none

def items? : Nat → Tokens → Option (List Document × Tokens)
  | 0, _ => none
  | depth + 1, tokens =>
      match skipLines tokens with
      | .rightBracket :: rest => some ([], rest)
      | tokens => do
          let (item, rest) ← value? depth tokens
          match skipLines rest with
          | .comma :: rest => do
              let (items, rest) ← items? depth rest
              some (item :: items, rest)
          | .rightBracket :: rest => some ([item], rest)
          | _ => none

def inlineEntries? : Nat → List (String × Document) → Tokens →
    Option (List (String × Document) × Tokens)
  | 0, _, _ => none
  | depth + 1, entries, tokens => do
      let ((part, parts), rest) ← dottedKey? tokens
      let rest ← expect? .equals (skipBlank rest)
      let (value, rest) ← value? depth (skipBlank rest)
      let entries ← insertAt? part parts value entries
      match skipBlank rest with
      | .rightBrace :: rest => some (entries, rest)
      | .comma :: rest => inlineEntries? depth entries (skipBlank rest)
      | _ => none

end

def readValue? (tokens : Tokens) : Option (Document × Tokens) :=
  value? (tokens.length + 1) tokens

end Gateway.Toml
