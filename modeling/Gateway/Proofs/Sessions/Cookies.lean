import Gateway.Http.Cookie
import Gateway.Proofs.Text
import Mathlib.Data.List.TakeWhile

namespace Gateway.Http

/-! A cookie from the gateway to a client and back. What the gateway sets can stand in a
header field and begins with name and value; what a client brings is found by its name,
among other cookies. -/

namespace Header

/-! Text that can stand in a header field. -/

def Writable (text : String) : Prop :=
  isValue (Text.bytes text) = true

theorem value?_of_writable {text : String} (writable : Writable text) :
    value? text = some (Text.bytes text) :=
  if_pos writable

theorem Writable.append {left right : String} (front : Writable left)
    (back : Writable right) :
    Writable (left ++ right) := by
  rw [Writable, isValue, Text.bytes_append, List.all_append, Bool.and_eq_true]
  exact ⟨front, back⟩

private theorem writable_of_plain {text : String}
    (plain : (Text.bytes text).all isPlainByte = true) :
    Writable text := by
  refine List.all_eq_true.2 fun byte member => ?_
  have visible := List.all_eq_true.1 plain byte member
  simp only [isPlainByte, isValueByte, Bool.or_eq_true, Bool.and_eq_true,
    decide_eq_true_eq, bne_iff_ne] at visible ⊢
  rcases visible with ⟨low, high⟩ | tab
  · exact .inl ⟨low, fun same => absurd (same ▸ high) (by decide)⟩
  · exact .inr tab

private theorem writable_ofList {characters : List Char}
    (visible : ∀ character ∈ characters, 32 ≤ character.toNat ∧ character.toNat < 127) :
    Writable (String.ofList characters) := by
  have bytes := Text.bytes_ofList_of_ascii
    (fun character member => Nat.lt_trans (visible character member).2 (by decide))
  have valid :
      ∀ code : Nat, 32 ≤ code → code < 127 → isValueByte (UInt8.ofNat code) = true := by
    intro code low high
    revert low
    revert code
    decide
  rw [Writable, bytes]
  refine List.all_eq_true.2 fun byte member => ?_
  rcases List.mem_map.1 member with ⟨character, here, rfl⟩
  exact valid _ (visible character here).1 (visible character here).2

/-! Names of header fields, which serve as names of cookies, too. -/

theorem of_isNameCharacter {character : Char} (named : isNameCharacter character = true) :
    33 ≤ character.toNat ∧ character.toNat < 127 ∧ character ≠ ';' ∧ character ≠ '=' := by
  have codes :
      33 ≤ character.toNat ∧ character.toNat < 127 ∧ character.toNat ≠ ';'.toNat ∧
      character.toNat ≠ '='.toNat := by
    have separator : ';'.toNat = 59 := by decide
    have sign : '='.toNat = 61 := by decide
    simp only [isNameCharacter, Bool.or_eq_true, List.contains_iff_mem] at named
    rcases named with (letter | digit) | mark
    · have letter : (decide (65 ≤ character.val ∧ character.val ≤ 90) ||
          decide (97 ≤ character.val) && decide (character.val ≤ 122)) = true := letter
      simp only [Bool.or_eq_true, Bool.and_eq_true, decide_eq_true_eq,
        UInt32.le_iff_toNat_le] at letter
      have range : 65 ≤ character.toNat ∧ character.toNat ≤ 90 ∨
          97 ≤ character.toNat ∧ character.toNat ≤ 122 := letter
      omega
    · simp only [Decimal.isDigit, Bool.and_eq_true, decide_eq_true_eq] at digit
      have range : 48 ≤ character.toNat ∧ character.toNat ≤ 57 := digit
      omega
    · let apart (mark : Char) : Bool := decide (33 ≤ mark.toNat ∧ mark.toNat < 127 ∧
        mark.toNat ≠ ';'.toNat ∧ mark.toNat ≠ '='.toNat)
      exact of_decide_eq_true (List.all_eq_true (p := apart).1 (by decide) character mark)
  exact ⟨codes.1, codes.2.1, fun same => codes.2.2.1 (congrArg Char.toNat same),
    fun same => codes.2.2.2 (congrArg Char.toNat same)⟩

theorem of_isName {name : String} (valid : isName name = true) :
    name ≠ "" ∧ ∀ character ∈ name.toList, isNameCharacter character = true := by
  simp only [isName, Bool.and_eq_true, Bool.not_eq_true', decide_eq_true_eq] at valid
  refine ⟨?_, List.all_eq_true.1 valid.2⟩
  rintro rfl
  exact absurd valid.1.1 (by decide)

theorem writable_of_isName {name : String} (valid : isName name = true) :
    Writable name := by
  rw [← String.ofList_toList (s := name)]
  refine writable_ofList fun character member => ?_
  have codes := of_isNameCharacter ((of_isName valid).2 character member)
  exact ⟨Nat.le_of_succ_le codes.1, codes.2.1⟩

end Header

namespace Cookie

/-! The cookie that the gateway sets. -/

def attributes (config : CookieConfig) : String :=
  flag "HttpOnly" config.httpOnly ++
    property "SameSite" (config.sameSite.map SameSite.name) ++
    flag "Secure" config.secure ++ property "Path" config.path ++
    property "Domain" config.domain ++
    property "Max-Age" (config.maxAge.map (fun age => toString (ageInSeconds age)))

private theorem render_eq (config : CookieConfig) (name value : String) :
    render config name value = name ++ "=" ++ value ++ attributes config := by
  simp only [render, attributes, String.append_assoc]

/-- Text that adds nothing to the part of a cookie before it. -/
def Separate (text : String) : Prop :=
  text.toList.takeWhile (fun character => character != ';') = []

theorem Separate.append {left right : String} (front : Separate left)
    (back : Separate right) :
    Separate (left ++ right) := by
  unfold Separate at front back ⊢
  rw [String.toList_append]
  cases same : left.toList with
  | nil => exact back
  | cons character rest =>
      rw [same, List.takeWhile_cons] at front
      rw [List.cons_append, List.takeWhile_cons]
      split at front
      · cases front
      · rename_i separator
        rw [if_neg separator]

private theorem separate_of_cons (rest : String) : Separate ("; " ++ rest) := by
  rw [Separate, String.toList_append]
  rfl

private theorem separate_flag (name : String) (set : Bool) :
    Separate (flag name set) := by
  cases set with
  | false => rfl
  | true => exact separate_of_cons name

private theorem separate_property (name : String) (value : Option String) :
    Separate (property name value) := by
  cases value with
  | none => rfl
  | some value =>
      rw [property, String.append_assoc, String.append_assoc]
      exact separate_of_cons _

private theorem separate_attributes (config : CookieConfig) :
    Separate (attributes config) :=
  (((((separate_flag _ _).append (separate_property _ _)).append
    (separate_flag _ _)).append (separate_property _ _)).append
    (separate_property _ _)).append (separate_property _ _)

open Header

private theorem writable_separator : Writable "; " := rfl

private theorem writable_flag (name : String) (writable : Writable name) (set : Bool) :
    Writable (flag name set) := by
  cases set with
  | false => rfl
  | true => exact writable_separator.append writable

private theorem writable_property (name : String) (named : Writable name)
    {value : Option String} (writable : ∀ text, value = some text → Writable text) :
    Writable (property name value) := by
  cases value with
  | none => rfl
  | some text =>
      have sign : Writable "=" := rfl
      exact ((writable_separator.append named).append sign).append (writable text rfl)

def Plain (config : CookieConfig) : Prop :=
  ∀ text, config.path = some text ∨ config.domain = some text →
    (Text.bytes text).all isPlainByte = true

private theorem writable_toString (number : Nat) : Writable (toString number) := by
  rw [Nat.toString_eq_ofList_toDigits]
  refine writable_ofList fun character member => ?_
  have digit := Nat.isDigit_of_mem_toDigits (by decide) (by decide) member
  simp only [Char.isDigit, Bool.and_eq_true, decide_eq_true_eq, UInt32.le_iff_toNat_le,
    ge_iff_le] at digit
  have range : 48 ≤ character.toNat ∧ character.toNat ≤ 57 := digit
  omega

private theorem writable_attributes {config : CookieConfig} (plain : Plain config) :
    Writable (attributes config) := by
  have sameSite : Writable (property "SameSite" (config.sameSite.map SameSite.name)) := by
    refine writable_property "SameSite" rfl fun text shown => ?_
    rcases Option.map_eq_some_iff.1 shown with ⟨mode, -, rfl⟩
    cases mode <;> rfl
  have path : Writable (property "Path" config.path) :=
    writable_property "Path" rfl fun text set => writable_of_plain (plain text (.inl set))
  have domain : Writable (property "Domain" config.domain) :=
    writable_property "Domain" rfl fun text set =>
      writable_of_plain (plain text (.inr set))
  have maxAge : Writable
      (property "Max-Age"
        (config.maxAge.map (fun age => toString (ageInSeconds age)))) := by
    refine writable_property "Max-Age" rfl fun text shown => ?_
    rcases Option.map_eq_some_iff.1 shown with ⟨age, -, rfl⟩
    exact writable_toString _
  exact (((((writable_flag "HttpOnly" rfl _).append sameSite).append
    (writable_flag "Secure" rfl _)).append path).append domain).append maxAge

theorem writable_render {config : CookieConfig} (plain : Plain config)
    {name value : String} (named : Writable name) (valued : Writable value) :
    Writable (render config name value) := by
  have sign : Writable "=" := rfl
  rw [render_eq]
  exact ((named.append sign).append valued).append (writable_attributes plain)

theorem head?_render (config : CookieConfig) {name value : String}
    (inside : ∀ character ∈ (name ++ "=" ++ value).toList, character ≠ ';') :
    (Text.splitAt ';' (render config name value).toList).head? =
      some (name ++ "=" ++ value).toList := by
  rw [Text.head?_splitAt, render_eq, String.toList_append,
    List.takeWhile_append_of_pos (fun character member =>
      bne_iff_ne.2 (inside character member)),
    separate_attributes, List.append_nil]

/-! The cookies that a client brings. -/

/-- A part of a header sets a name to a value. Blanks around either do not count. -/
def Sets (part : List Char) (name value : String) : Prop :=
  ∃ left right, part = left ++ '=' :: right ∧ '=' ∉ left ∧
    Text.trim left = name.toList ∧ Text.trim right = value.toList

/-- The parts of all headers that are plain text. -/
def parts (request : Request) : List (List Char) :=
  ((request.headers.values "cookie").filterMap plainText?).flatMap (Text.splitAt ';')

theorem ofRequest_eq (request : Request) :
    ofRequest request = (parts request).filterMap parsePart? := by
  rw [ofRequest, parts]
  induction request.headers.values "cookie" with
  | nil => rfl
  | cons content rest induction =>
      rw [List.flatMap_cons, induction, List.filterMap_cons]
      cases plainText? content with
      | none => rfl
      | some header =>
          rw [List.flatMap_cons, List.filterMap_append]
          rfl

private theorem unquote_of_unquoted {characters : List Char}
    (unquoted : '"' ∉ characters) :
    unquote characters = characters := by
  unfold unquote
  split
  · exact absurd List.mem_cons_self unquoted
  · rfl

private theorem parsePart?_of_sets {part : List Char} {name value : String}
    (sets : Sets part name value) (named : name ≠ "") (unquoted : '"' ∉ value.toList)
    (unblank : ∀ character ∈ value.toList, Text.isBlank character = false) :
    parsePart? part = some (name, value) := by
  rcases sets with ⟨left, right, rfl, unsigned, front, back⟩
  have apart : ∀ character ∈ left, (character != '=') = true := fun character member =>
    bne_iff_ne.2 fun same => unsigned (same ▸ member)
  have filled : name.toList.isEmpty = false := by
    rw [List.isEmpty_eq_false_iff]
    exact fun empty => named (String.toList_eq_nil_iff.1 empty)
  simp only [parsePart?, List.takeWhile_append_of_pos apart,
    List.dropWhile_append_of_pos apart, List.takeWhile_cons, List.dropWhile_cons,
    bne_self_eq_false, Bool.false_eq_true, if_false, List.append_nil, front, back,
    unquote_of_unquoted unquoted, Text.trim_of_unblank unblank, filled,
    String.ofList_toList]

private theorem sets_of_parsePart? {part : List Char} {name value : String}
    (parsed : parsePart? part = some (name, value)) : ∃ value, Sets part name value := by
  unfold parsePart? at parsed
  dsimp only at parsed
  split at parsed
  · cases parsed
  · rename_i sign rest after
    split at parsed
    · cases parsed
    · have same : String.ofList
          (Text.trim (part.takeWhile (fun character => character != '='))) =
          name := congrArg Prod.fst (Option.some.inj parsed)
      have signed : sign = '=' := by
        have stopped := List.head?_dropWhile_not (fun character => character != '=') part
        rw [after] at stopped
        simpa using stopped
      subst signed
      refine ⟨String.ofList (Text.trim rest),
        part.takeWhile (fun character => character != '='), rest, ?_, ?_, ?_, ?_⟩
      · rw [← after, List.takeWhile_append_dropWhile]
      · exact fun member => absurd (List.mem_takeWhile_imp member) (by decide)
      · rw [← same, String.toList_ofList]
      · rw [String.toList_ofList]

theorem find?_of_unset {name : String} {parts : List (List Char)}
    (unset : ∀ part ∈ parts, ∀ value, ¬ Sets part name value) :
    (parts.filterMap parsePart?).find? (fun cookie => cookie.1 == name) = none := by
  refine List.find?_eq_none.2 fun cookie member same => ?_
  rcases List.mem_filterMap.1 member with ⟨part, here, parsed⟩
  have parsed : parsePart? part = some (name, cookie.2) := by
    rw [parsed, ← beq_iff_eq.1 same]
  rcases sets_of_parsePart? parsed with ⟨value, sets⟩
  exact unset part here value sets

theorem find?_ofRequest {request : Request} {name value : String}
    {before behind : List (List Char)} {part : List Char}
    (brought : parts request = before ++ part :: behind)
    (sets : Sets part name value)
    (first : ∀ other ∈ before, ∀ value, ¬ Sets other name value)
    (named : name ≠ "") (unquoted : '"' ∉ value.toList)
    (unblank : ∀ character ∈ value.toList, Text.isBlank character = false) :
    (ofRequest request).find? (fun cookie => cookie.1 == name) = some (name, value) := by
  rw [ofRequest_eq, brought, List.filterMap_append,
    List.filterMap_cons_some (parsePart?_of_sets sets named unquoted unblank),
    List.find?_append, find?_of_unset first, Option.none_or]
  exact List.find?_cons_of_pos (beq_self_eq_true name)

end Cookie

end Gateway.Http
