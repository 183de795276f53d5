namespace Gateway.Text

/-! Spans of time, given in milliseconds, as they are written in messages: in
seconds from one second on, with no more decimals than needed. -/

def thousandths (part : Nat) : String :=
  let hundreds := part / 100
  let tens := part / 10 % 10
  let units := part % 10
  if part = 0 then ""
  else if tens = 0 && units = 0 then s!".{hundreds}"
  else if units = 0 then s!".{hundreds}{tens}"
  else s!".{hundreds}{tens}{units}"

def period (milliseconds : Nat) : String :=
  if milliseconds = 0 then "0ns"
  else if milliseconds < 1000 then s!"{milliseconds}ms"
  else
    let seconds := milliseconds / 1000
    let fraction := thousandths (milliseconds % 1000)
    s!"{seconds}{fraction}s"

end Gateway.Text
