namespace Gateway.Text

/-! Case folding for names that are compared without regard to case. Every
name that is looked up this way is written in ASCII letters, so only characters
whose lower case is an ASCII letter matter: the ASCII capitals and the Kelvin
sign. All other characters stand for themselves and match no name. -/

def foldCharacter (character : Char) : Char :=
  if character = '\u212a' then 'k' else character.toLower

def fold (text : String) : String :=
  String.ofList (text.toList.map foldCharacter)

/-! Equality of host names and the like, where only ASCII letters fold. -/

def equalIgnoringAsciiCase (left right : String) : Bool :=
  left.toList.map Char.toLower == right.toList.map Char.toLower

end Gateway.Text
