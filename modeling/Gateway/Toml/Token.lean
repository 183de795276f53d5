namespace Gateway.Toml

/-! The tokens of a settings file: marks, runs of blanks, ends of lines,
comments, bare words and quoted texts. Line ends of two characters count as one
character, and a byte order mark at the beginning is passed over. -/

inductive Token where
  | blank (text : String)
  | newline
  | comment
  | equals
  | period
  | comma
  | colon
  | plus
  | leftBrace
  | rightBrace
  | leftBracket
  | rightBracket
  | word (text : String)
  | quoted (text : String) (multiline : Bool)
  deriving Repr, DecidableEq

namespace Token

def foldLineEnds : List Char → List Char
  | '\r' :: '\n' :: rest => '\n' :: foldLineEnds rest
  | character :: rest => character :: foldLineEnds rest
  | [] => []

def dropMark : List Char → List Char
  | '\ufeff' :: rest => rest
  | characters => characters

def isBlank (character : Char) : Bool :=
  character == ' ' || character == '\t'

def isWordCharacter (character : Char) : Bool :=
  character.isAlphanum || character == '-' || character == '_'

def isCommentCharacter (character : Char) : Bool :=
  character == '\t' || 0x20 ≤ character.toNat

def isTextCharacter (character : Char) : Bool :=
  character == '\t' || (0x20 ≤ character.toNat && character.toNat != 0x7f)

/-! Quoted texts. A text in double quotes has escapes, and one in single quotes
has none. Three quotes open a text of several lines; a line end right after
them does not belong to it, and up to two quotes may stand before the three that
close it. -/

/-- Whether blanks are being passed over: after a backslash at the end of a line,
at first up to the line end and then up to the next text. -/
inductive Skipping where
  | nothing
  | toLineEnd
  | blanks
  deriving Repr, DecidableEq

def hexValue? (character : Char) : Option Nat :=
  if '0' ≤ character && character ≤ '9' then some (character.toNat - 48)
  else if 'a' ≤ character && character ≤ 'f' then some (character.toNat - 87)
  else if 'A' ≤ character && character ≤ 'F' then some (character.toNat - 55)
  else none

/-- The character of a hexadecimal number, if there is one. -/
def characterOf? (digits : List Char) : Option Char := do
  let values ← digits.mapM hexValue?
  let code := values.foldl (fun code value => code * 16 + value) 0
  if code.isValidChar then some (Char.ofNat code) else none

def escaped? : Char → Option Char
  | '"' => some '"'
  | '\\' => some '\\'
  | 'b' => some '\x08'
  | 'f' => some '\x0c'
  | 'n' => some '\n'
  | 'r' => some '\r'
  | 't' => some '\t'
  | _ => none

def push (characters : List Char) (result : Option (List Char × List Char)) :
    Option (List Char × List Char) :=
  result.map (fun (value, rest) => (characters ++ value, rest))

def readLine (delimiter : Char) : List Char → Option (List Char × List Char)
  | [] => none
  | character :: rest =>
      if character = delimiter then some ([], rest)
      else if character = '\\' ∧ delimiter = '"' then
        match rest with
        | 'u' :: a :: b :: c :: d :: rest => do
            push [← characterOf? [a, b, c, d]] (readLine delimiter rest)
        | 'U' :: a :: b :: c :: d :: e :: f :: g :: h :: rest => do
            push [← characterOf? [a, b, c, d, e, f, g, h]] (readLine delimiter rest)
        | mark :: rest => do push [← escaped? mark] (readLine delimiter rest)
        | [] => none
      else if isTextCharacter character then push [character] (readLine delimiter rest)
      else none

/-- The text and the rest when a text of several lines closes here. -/
def closing? (delimiter : Char) : List Char → Option (List Char × List Char)
  | a :: b :: c :: rest =>
      if a = delimiter ∧ b = delimiter ∧ c = delimiter then
        let extra := (rest.take 2).takeWhile (fun character => character == delimiter)
        some (extra, rest.drop extra.length)
      else none
  | _ => none

def readLines (delimiter : Char) : Skipping → List Char → Option (List Char × List Char)
  | _, [] => none
  | .toLineEnd, character :: rest =>
      if isBlank character then readLines delimiter .toLineEnd rest
      else if character = '\n' then readLines delimiter .blanks rest
      else none
  | skipping, character :: rest =>
      if skipping = .blanks ∧ (isBlank character ∨ character = '\n') then
        readLines delimiter .blanks rest
      else
        match closing? delimiter (character :: rest) with
        | some closed => some closed
        | none =>
            if character = '\\' ∧ delimiter = '"' then
              match rest with
              | 'u' :: a :: b :: c :: d :: rest => do
                  push [← characterOf? [a, b, c, d]] (readLines delimiter .nothing rest)
              | 'U' :: a :: b :: c :: d :: e :: f :: g :: h :: rest => do
                  push [← characterOf? [a, b, c, d, e, f, g, h]]
                    (readLines delimiter .nothing rest)
              | '\n' :: rest => readLines delimiter .blanks rest
              | ' ' :: rest => readLines delimiter .toLineEnd rest
              | '\t' :: rest => readLines delimiter .toLineEnd rest
              | mark :: rest => do
                  push [← escaped? mark] (readLines delimiter .nothing rest)
              | [] => none
            else if character = '\n' ∨ isTextCharacter character then
              push [character] (readLines delimiter .nothing rest)
            else none

def readQuoted (delimiter : Char) (characters : List Char) : Option (Token × List Char) :=
  match characters with
  | a :: b :: rest =>
      if a = delimiter ∧ b = delimiter then
        let content :=
          match rest with
          | '\n' :: rest => rest
          | rest => rest
        (readLines delimiter .nothing content).map (fun (value, rest) =>
          (.quoted (String.ofList value) true, rest))
      else if a = delimiter then some (.quoted "" false, b :: rest)
      else
        (readLine delimiter (a :: b :: rest)).map (fun (value, rest) =>
          (.quoted (String.ofList value) false, rest))
  | _ =>
      (readLine delimiter characters).map (fun (value, rest) =>
        (.quoted (String.ofList value) false, rest))

def next? : List Char → Option (Token × List Char)
  | [] => none
  | character :: rest =>
      match character with
      | '\n' => some (.newline, rest)
      | '#' => some (.comment, rest.dropWhile isCommentCharacter)
      | '=' => some (.equals, rest)
      | '.' => some (.period, rest)
      | ',' => some (.comma, rest)
      | ':' => some (.colon, rest)
      | '+' => some (.plus, rest)
      | '\x7b' => some (.leftBrace, rest)
      | '\x7d' => some (.rightBrace, rest)
      | '[' => some (.leftBracket, rest)
      | ']' => some (.rightBracket, rest)
      | '\'' => readQuoted '\'' rest
      | '"' => readQuoted '"' rest
      | _ =>
          if isBlank character then
            some (.blank (String.ofList (character :: rest.takeWhile isBlank)),
              rest.dropWhile isBlank)
          else if isWordCharacter character then
            some (.word (String.ofList (character :: rest.takeWhile isWordCharacter)),
              rest.dropWhile isWordCharacter)
          else none

/-- Reads at most as many tokens as the first argument says. -/
def readAll : Nat → List Char → Option (List Token)
  | _, [] => some []
  | 0, _ => none
  | count + 1, characters => do
      let (token, rest) ← next? characters
      some (token :: (← readAll count rest))

def ofText? (text : String) : Option (List Token) :=
  let characters := foldLineEnds (dropMark text.toList)
  readAll characters.length characters

end Token

end Gateway.Toml
