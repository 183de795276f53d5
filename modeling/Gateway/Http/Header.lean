import Gateway.Decimal.Reading
import Gateway.Text.Utf8

namespace Gateway.Http

/-! Header fields. Names are compared in lower case and stored that way; the
values of one name keep their order. -/

namespace Header

def isNameCharacter (character : Char) : Bool :=
  character.isAlpha || Decimal.isDigit character ||
    ['!', '"', '#', '$', '%', '&', '\'', '*', '+', '-', '.', '^', '_', '\x60', '|',
      '~'].contains
      character

def maximalNameSize : Nat := 65535

def isName (name : String) : Bool :=
  let characters := name.toList
  !characters.isEmpty && decide (characters.length ≤ maximalNameSize) &&
    characters.all isNameCharacter

def lowerCase (name : String) : String :=
  String.ofList (name.toList.map Char.toLower)

def name? (name : String) : Option String :=
  if isName name then some (lowerCase name) else none

/-! Every byte may occur in a value but the control characters; among those the
tab is allowed. -/

def isValueByte (byte : UInt8) : Bool :=
  (32 ≤ byte && byte != 127) || byte == 9

def isValue (content : Bytes) : Bool :=
  content.all isValueByte

def value? (text : String) : Option Bytes :=
  let content := Text.bytes text
  if isValue content then some content else none

/-! A value as text, if it consists of visible ASCII characters, spaces and tabs. -/

def isPlainByte (byte : UInt8) : Bool :=
  (32 ≤ byte && byte < 127) || byte == 9

def plainText? (content : Bytes) : Option (List Char) :=
  if content.all isPlainByte then
    some (content.map (fun byte => Char.ofNat byte.toNat))
  else none

end Header

structure Headers where
  fields : List (String × Bytes) := []
  deriving Repr, DecidableEq

namespace Headers

def values (headers : Headers) (name : String) : List Bytes :=
  (headers.fields.filter (fun field => field.1 == name)).map Prod.snd

def first? (headers : Headers) (name : String) : Option Bytes :=
  (headers.values name).head?

def append (headers : Headers) (name : String) (value : Bytes) : Headers where
  fields := headers.fields ++ [(name, value)]

def remove (headers : Headers) (name : String) : Headers where
  fields := headers.fields.filter (fun field => field.1 != name)

/-! Leaves one value for the name. -/

def replace (headers : Headers) (name : String) (value : Bytes) : Headers :=
  (headers.remove name).append name value

@[simp] theorem values_append (headers : Headers) (name other : String) (value : Bytes) :
    (headers.append name value).values other =
      headers.values other ++ if name = other then [value] else [] := by
  by_cases same : name = other <;> simp [values, append, same]

@[simp] theorem values_remove (headers : Headers) (name other : String) :
    (headers.remove name).values other =
      if name = other then [] else headers.values other := by
  by_cases same : name = other
  · simp [values, remove, same]
  · simp only [values, remove, List.filter_filter, if_neg same]
    congr 1
    refine List.filter_congr fun field _ => ?_
    by_cases found : field.1 = other
    · simp [found, Ne.symm same]
    · simp [found]

theorem values_replace (headers : Headers) (name other : String) (value : Bytes) :
    (headers.replace name value).values other =
      if name = other then [value] else headers.values other := by
  by_cases same : name = other <;> simp [replace, same]

end Headers

end Gateway.Http
