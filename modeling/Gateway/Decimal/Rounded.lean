namespace Gateway.Decimal

/-! The binary64 number nearest to an exact decimal, ties going to the even
neighbour, as its bit pattern. The computation is exact arithmetic on natural
numbers. -/

def signBit : Nat := 0x8000000000000000

def infinity : Nat := 0x7ff0000000000000

def notANumber : Nat := 0x7ff8000000000000

def divideToEven (numerator denominator : Nat) : Nat :=
  let quotient := numerator / denominator
  let twice := 2 * (numerator % denominator)
  if twice < denominator then quotient
  else if denominator < twice then quotient + 1
  else quotient + quotient % 2

/-! The largest power of two that is no larger than the fraction, as its exponent. -/

def binaryExponent (numerator denominator : Nat) : Int :=
  let guess := (Nat.log2 numerator : Int) - Nat.log2 denominator
  let reached :=
    if 0 ≤ guess then denominator <<< guess.toNat ≤ numerator
    else denominator ≤ numerator <<< (-guess).toNat
  if reached then guess else guess - 1

def roundFraction (numerator denominator : Nat) : Nat :=
  if numerator = 0 then 0
  else
    let exponent := max (binaryExponent numerator denominator) (-1022)
    let unit := exponent - 52
    let significand :=
      if 0 ≤ unit then divideToEven numerator (denominator <<< unit.toNat)
      else divideToEven (numerator <<< (-unit).toNat) denominator
    let bits := ((exponent + 1022).toNat <<< 52) + significand
    min bits infinity

/-! The bits of `digits * 10 ^ exponent`. Exponents far outside the range of
binary64 are settled by size alone. -/

def round (digits : Nat) (exponent : Int) : Nat :=
  let size := exponent + (Nat.log2 digits : Int) / 3
  if digits = 0 then 0
  else if 400 < exponent then infinity
  else if size < -400 then 0
  else if 0 ≤ exponent then roundFraction (digits * Nat.pow 10 exponent.toNat) 1
  else roundFraction digits (Nat.pow 10 (-exponent).toNat)

example : round 3 (-1) = 0x3fd3333333333333 := by decide +kernel
example : round 5 (-324) = 1 := by decide +kernel
example : round 1 309 = infinity := by decide +kernel

end Gateway.Decimal
