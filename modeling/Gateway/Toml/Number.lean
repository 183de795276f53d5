import Gateway.Decimal.Reading
import Gateway.Document

namespace Gateway.Toml.Number

/-! Numbers among the values of a settings file. Single underscores may stand
between digits; a decimal number has no leading zero. -/

structure Form where
  radix : Nat := 10
  sign : Bool := false
  leadingZeros : Bool := false

def digitValue? (radix : Nat) (character : Char) : Option Nat :=
  let value :=
    if '0' ≤ character && character ≤ '9' then character.toNat - 48
    else if 'a' ≤ character && character ≤ 'f' then character.toNat - 87
    else if 'A' ≤ character && character ≤ 'F' then character.toNat - 55
    else radix
  if value < radix then some value else none

/-- The digits at the beginning of a text, with single underscores among them,
and what follows. -/
def splitDigits (radix : Nat) : List Char → List Char × List Char
  | [] => ([], [])
  | '_' :: rest =>
      match rest with
      | '_' :: _ => (['_'], rest)
      | _ =>
          let (digits, rest) := splitDigits radix rest
          ('_' :: digits, rest)
  | character :: rest =>
      if (digitValue? radix character).isSome then
        let (digits, rest) := splitDigits radix rest
        (character :: digits, rest)
      else ([], character :: rest)

def isWellFormed (form : Form) (digits : List Char) : Bool :=
  let plain := digits.filter (fun character => character != '_')
  !digits.isEmpty && digits.head? != some '_' && digits.getLast? != some '_' &&
    (form.leadingZeros || plain.length ≤ 1 || plain.head? != some '0')

/-- An integer at the beginning of a text: whether it is negative, its digits, and
what follows. -/
def split? (form : Form) (characters : List Char) :
    Option (Bool × List Char × List Char) :=
  let (negative, unsigned) :=
    match characters with
    | '-' :: rest => if form.sign then (true, rest) else (false, characters)
    | _ => (false, characters)
  let (digits, rest) := splitDigits form.radix unsigned
  if isWellFormed form digits then
    some (negative, digits.filter (fun character => character != '_'), rest)
  else none

def natOfDigits (radix : Nat) (digits : List Char) : Nat :=
  digits.foldl (fun value digit => value * radix + (digitValue? radix digit).getD 0) 0

def wordLimit : Int := 0x8000000000000000

/-- An integer that takes up a whole text and fits into a signed word. -/
def integer? (form : Form) (characters : List Char) : Option Document := do
  let (negative, digits, rest) ← split? form characters
  let magnitude := natOfDigits form.radix digits
  let value : Int := if negative then -(magnitude : Int) else magnitude
  if rest.isEmpty && decide (-wordLimit ≤ value) && decide (value < wordLimit) then
    some (.integer value)
  else none

def decimalForm : Form := { sign := true }

/-- A number with a fraction or a power of ten must be finite. -/
def finite? (whole fraction : List Char) (exponent : Int) : Option Document :=
  let bits :=
    Decimal.round (Decimal.natOfDigits (whole ++ fraction)) (exponent - fraction.length)
  if bits < Decimal.infinity then some .other else none

/-- The value of a power of ten that takes up a whole text. -/
def exponentOf? (sign : Bool) (characters : List Char) : Option Int := do
  let (negative, digits, rest) ← split? { sign, leadingZeros := true } characters
  let magnitude : Int := Decimal.natOfDigits digits
  if rest.isEmpty then some (if negative then -magnitude else magnitude) else none

end Gateway.Toml.Number
