namespace Gateway.Text

/-! Blank characters: those with the property `White_Space` of the Unicode
character database. -/

def isBlank (character : Char) : Bool :=
  let code := character.toNat
  (9 ≤ code && code ≤ 13) || code == 0x20 || code == 0x85 || code == 0xa0 ||
    code == 0x1680 || (0x2000 ≤ code && code ≤ 0x200a) || code == 0x2028 ||
    code == 0x2029 || code == 0x202f || code == 0x205f || code == 0x3000

theorem isBlank_of_isWhitespace {character : Char} (blank : character.isWhitespace) :
    isBlank character := by
  simp only [Char.isWhitespace, Bool.or_eq_true, decide_eq_true_eq] at blank
  rcases blank with ((same | same) | same) | same <;> subst same <;> decide

/-! Removes from the right end every character that satisfies a test. -/

def trimRight (drop : Char → Bool) (characters : List Char) : List Char :=
  (characters.reverse.dropWhile drop).reverse

def trim (characters : List Char) : List Char :=
  trimRight isBlank (characters.dropWhile isBlank)

/-! A text that holds nothing but blanks, the empty text included. -/

def isBlankText (text : String) : Bool :=
  text.toList.all isBlank

/-! The parts of a text between separators. There is always one part more than
there are separators. -/

def splitAt (separator : Char) : List Char → List (List Char)
  | [] => [[]]
  | character :: rest =>
      match splitAt separator rest with
      | [] => [[character]]
      | part :: parts =>
          if character = separator then [] :: part :: parts
          else (character :: part) :: parts

end Gateway.Text
