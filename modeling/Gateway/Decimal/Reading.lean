import Gateway.Decimal.Rounded

namespace Gateway.Decimal

/-! Numbers as text. A decimal has an optional sign, digits with at most one
point among or beside them, and an optional power of ten; `inf`, `infinity` and
`nan` are read in any case. -/

def isDigit (character : Char) : Bool :=
  '0' ≤ character && character ≤ '9'

def digitValue (character : Char) : Nat :=
  character.toNat - '0'.toNat

def natOfDigits (digits : List Char) : Nat :=
  digits.foldl (fun value digit => value * 10 + digitValue digit) 0

/-! A natural number: digits alone, at least one, with an optional plus sign. -/

def digits? (characters : List Char) : Option Nat :=
  if characters.isEmpty || !characters.all isDigit then none
  else some (natOfDigits characters)

def natural? : List Char → Option Nat
  | '+' :: rest => digits? rest
  | characters => digits? characters

def naturalBelow? (bound : Nat) (text : String) : Option Nat :=
  (natural? text.toList).filter (fun value => value < bound)

/-! The power of ten after the digits; without a mark it is zero. -/

def integer? : List Char → Option Int
  | '-' :: rest => (digits? rest).map fun value : Nat => -(value : Int)
  | '+' :: rest => (digits? rest).map fun value : Nat => (value : Int)
  | characters => (digits? characters).map fun value : Nat => (value : Int)

def exponent? : List Char → Option Int
  | [] => some 0
  | mark :: rest => if mark = 'e' || mark = 'E' then integer? rest else none

/-! The bits of an unsigned decimal. -/

def scaled? (whole fraction tail : List Char) : Option Nat :=
  if whole.isEmpty && fraction.isEmpty then none
  else
    (exponent? tail).map fun power =>
      round (natOfDigits (whole ++ fraction)) (power - fraction.length)

def magnitude? (characters : List Char) : Option Nat :=
  let whole := characters.takeWhile isDigit
  match characters.dropWhile isDigit with
  | '.' :: rest => scaled? whole (rest.takeWhile isDigit) (rest.dropWhile isDigit)
  | tail => scaled? whole [] tail

/-! The bits of a number in binary64. -/

def unsigned? (characters : List Char) : Option Nat :=
  let named := String.ofList (characters.map Char.toLower)
  if named = "inf" || named = "infinity" then some infinity
  else if named = "nan" then some notANumber
  else magnitude? characters

def bits? (text : String) : Option UInt64 :=
  match text.toList with
  | '-' :: rest =>
      (unsigned? rest).map fun magnitude => UInt64.ofNat (signBit + magnitude)
  | '+' :: rest => (unsigned? rest).map UInt64.ofNat
  | rest => (unsigned? rest).map UInt64.ofNat

example : bits? ".5" = some 0x3fe0000000000000 := by decide +kernel
example : bits? "-5." = some 0xc014000000000000 := by decide +kernel
example : bits? "1e" = none := by decide +kernel

end Gateway.Decimal
