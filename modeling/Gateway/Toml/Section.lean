import Gateway.Toml.Value

namespace Gateway.Toml

/-! A settings file as a list of sections. The entries before the first header
form a section of their own, if there are any. -/

inductive Line where
  | header (array : Bool) (path : List String)
  | entry (part : String) (parts : List String) (value : Document)

structure Section where
  path : List String
  array : Bool
  entries : List (String × Document)

def lineEnd? (tokens : Tokens) : Option Tokens :=
  match skipBlank tokens with
  | [] | [.comment] => some []
  | .newline :: rest | .comment :: .newline :: rest => some rest
  | _ => none

def headerLine? (array : Bool) (tokens : Tokens) : Option (Line × Tokens) := do
  let ((part, parts), rest) ← dottedKey? (skipBlank tokens)
  let rest ← expect? .rightBracket rest
  let rest ← if array then expect? .rightBracket rest else some rest
  some (.header array (part :: parts), ← lineEnd? rest)

def entryLine? (tokens : Tokens) : Option (Line × Tokens) := do
  let ((part, parts), rest) ← dottedKey? tokens
  let rest ← expect? .equals (skipBlank rest)
  let (value, rest) ← readValue? (skipBlank rest)
  some (.entry part parts value, ← lineEnd? rest)

/-- Reads at most as many lines as the first argument says. -/
def lines? : Nat → Tokens → Option (List Line)
  | count, tokens =>
      match skipLines tokens with
      | [] => some []
      | tokens =>
          match count with
          | 0 => none
          | count + 1 => do
              let (line, rest) ←
                match tokens with
                | .leftBracket :: .leftBracket :: rest => headerLine? true rest
                | .leftBracket :: rest => headerLine? false rest
                | tokens => entryLine? tokens
              some (line :: (← lines? count rest))

/-- Collects lines into the section that they follow. The flag says whether the
section counts even if it stays empty. -/
def collect? (current : Section) (counts : Bool) : List Line → Option (List Section)
  | [] => some (if counts then [current] else [])
  | .entry part parts value :: rest => do
      let entries ← insertAt? part parts value current.entries
      collect? { current with entries } true rest
  | .header array path :: rest => do
      let sections ← collect? { path, array, entries := [] } true rest
      some (if counts then current :: sections else sections)

def Section.ofText? (text : String) : Option (List Section) := do
  let tokens ← Token.ofText? text
  let lines ← lines? tokens.length tokens
  collect? { path := [], array := false, entries := [] } false lines

end Gateway.Toml
