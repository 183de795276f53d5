import Gateway.Decimal.Reading

namespace Gateway.Net

/-! Internet addresses and socket addresses, with their text. -/

inductive IpAddress where
  | v4 (octets : Vector UInt8 4)
  | v6 (groups : Vector UInt16 8)
  deriving Repr, DecidableEq

structure SocketAddress where
  ip : IpAddress
  scope : Nat := 0
  port : Nat
  deriving Repr, DecidableEq

/-! Printing. An address of eight groups leaves out its longest run of two or
more zero groups, the first of equally long ones, and shows an embedded address
of four octets as such. -/

def groupText (group : UInt16) : String :=
  String.ofList (Nat.toDigits 16 group.toNat)

def groupsText (groups : List UInt16) : String :=
  String.intercalate ":" (groups.map groupText)

def octetsText (octets : List Nat) : String :=
  String.intercalate "." (octets.map toString)

/-! The zero run that begins with a list, as its length. -/

def zeroRun (groups : List UInt16) : Nat :=
  (groups.takeWhile (fun group => group == 0)).length

structure Run where
  start : Nat := 0
  length : Nat := 0
  deriving Repr, DecidableEq

def longestRun (position : Nat) (best : Run) : List UInt16 → Run
  | [] => best
  | group :: rest =>
      let length := zeroRun (group :: rest)
      longestRun (position + 1)
        (if best.length < length then { start := position, length } else best) rest

def v6Text (groups : List UInt16) : String :=
  match groups with
  | [0, 0, 0, 0, 0, 0xffff, high, low] =>
      "::ffff:" ++ octetsText [high.toNat / 256, high.toNat % 256, low.toNat / 256,
        low.toNat % 256]
  | _ =>
      let run := longestRun 0 {} groups
      if 1 < run.length then
        groupsText (groups.take run.start) ++ "::" ++
          groupsText (groups.drop (run.start + run.length))
      else groupsText groups

def IpAddress.text : IpAddress → String
  | .v4 octets => octetsText (octets.toList.map UInt8.toNat)
  | .v6 groups => v6Text groups.toList

def SocketAddress.text (address : SocketAddress) : String :=
  match address.ip with
  | .v4 _ => s!"{address.ip.text}:{address.port}"
  | .v6 _ =>
      let scope := if address.scope = 0 then "" else s!"%{address.scope}"
      s!"[{address.ip.text}{scope}]:{address.port}"

/-! Reading. Every reader returns what follows the text that it took. -/

def digitOf? (radix : Nat) (character : Char) : Option Nat :=
  let value :=
    if Decimal.isDigit character then Decimal.digitValue character
    else if 'a' ≤ character && character ≤ 'f' then character.toNat - 87
    else if 'A' ≤ character && character ≤ 'F' then character.toNat - 55
    else radix
  if value < radix then some value else none

def natOfDigits (radix : Nat) (digits : List Char) : Nat :=
  digits.foldl (fun value digit => value * radix + (digitOf? radix digit).getD 0) 0

/-! A number below a bound. A limit on the number of digits and a ban on leading
zeros are optional. -/

structure NumberForm where
  radix : Nat := 10
  bound : Nat
  maximalDigits : Option Nat := none
  leadingZeros : Bool := true

def NumberForm.read? (form : NumberForm) (characters : List Char) :
    Option (Nat × List Char) :=
  let digits :=
    characters.takeWhile (fun character => (digitOf? form.radix character).isSome)
  let value := natOfDigits form.radix digits
  let tooMany :=
    match form.maximalDigits with
    | none => false
    | some maximum => decide (maximum < digits.length)
  if digits.isEmpty || tooMany || decide (form.bound ≤ value) ||
      (!form.leadingZeros && decide (1 < digits.length) && digits.head? == some '0') then
    none
  else
    some (value,
      characters.dropWhile (fun character => (digitOf? form.radix character).isSome))

def octetForm : NumberForm :=
  { bound := 256, maximalDigits := some 3, leadingZeros := false }

def groupForm : NumberForm := { radix := 16, bound := 65536, maximalDigits := some 4 }

def portForm : NumberForm := { bound := 65536 }

def scopeForm : NumberForm := { bound := 4294967296 }

def expect? (character : Char) : List Char → Option (List Char)
  | [] => none
  | head :: rest => if head = character then some rest else none

def readOctets? (characters : List Char) : Option (List Nat × List Char) := do
  let (first, rest) ← octetForm.read? characters
  let (second, rest) ← octetForm.read? (← expect? '.' rest)
  let (third, rest) ← octetForm.read? (← expect? '.' rest)
  let (fourth, rest) ← octetForm.read? (← expect? '.' rest)
  some ([first, second, third, fourth], rest)

/-! Groups between colons, at most as many as there is room for. An embedded
address of four octets stands for the last two of them and ends the reading. -/

structure GroupsRead where
  groups : List Nat
  embedded : Bool
  rest : List Char

def readGroups : (room : Nat) → (first : Bool) → List Char → GroupsRead
  | 0, _, characters => { groups := [], embedded := false, rest := characters }
  | room + 1, first, characters =>
      let start? := if first then some characters else expect? ':' characters
      let stop : GroupsRead := { groups := [], embedded := false, rest := characters }
      match start? with
      | none => stop
      | some start =>
          match (if 1 ≤ room then readOctets? start else none) with
          | some ([first, second, third, fourth], rest) =>
              { groups := [first * 256 + second, third * 256 + fourth],
                embedded := true, rest }
          | _ =>
              match groupForm.read? start with
              | none => stop
              | some (group, rest) =>
                  let next := readGroups room false rest
                  { next with groups := group :: next.groups }

def readV6? (characters : List Char) : Option (List Nat × List Char) := do
  let front := readGroups 8 true characters
  if front.groups.length = 8 then some (front.groups, front.rest)
  else if front.embedded then none
  else
    let rest ← expect? ':' (← expect? ':' front.rest)
    let back := readGroups (7 - front.groups.length) true rest
    let gap := 8 - front.groups.length - back.groups.length
    some (front.groups ++ List.replicate gap 0 ++ back.groups, back.rest)

def v4OfList? (octets : List Nat) : Option IpAddress :=
  if size : octets.length = 4 then
    some (.v4 ⟨(octets.map UInt8.ofNat).toArray, by simpa using size⟩)
  else none

def v6OfList? (groups : List Nat) : Option IpAddress :=
  if size : groups.length = 8 then
    some (.v6 ⟨(groups.map UInt16.ofNat).toArray, by simpa using size⟩)
  else none

def readV4Socket? (characters : List Char) : Option SocketAddress := do
  let (octets, rest) ← readOctets? characters
  let (port, rest) ← portForm.read? (← expect? ':' rest)
  let ip ← v4OfList? octets
  if rest.isEmpty then some { ip, port } else none

def readV6Socket? (characters : List Char) : Option SocketAddress := do
  let (groups, rest) ← readV6? (← expect? '[' characters)
  let (scope, rest) ←
    match rest with
    | '%' :: number => scopeForm.read? number
    | _ => some (0, rest)
  let (port, rest) ← portForm.read? (← expect? ':' (← expect? ']' rest))
  let ip ← v6OfList? groups
  if rest.isEmpty then some { ip, scope, port } else none

def SocketAddress.parse? (text : String) : Option SocketAddress :=
  (readV4Socket? text.toList).or (readV6Socket? text.toList)

example : (SocketAddress.parse? "[1:0:0:2::%3]:080").map SocketAddress.text =
    some "[1:0:0:2::%3]:80" := by decide +kernel

end Gateway.Net
