import Gateway.Text.Blank
import Gateway.Text.Utf8
import Mathlib.Data.List.DropRight
import Mathlib.Data.List.TakeWhile

namespace Gateway.Text

/-! Text that is written as bytes and read again. -/

theorem ofBytes?_bytes (text : String) : ofBytes? (bytes text) = some text := by
  have same : (⟨(bytes text).toArray⟩ : ByteArray) = text.toByteArray := by
    simp [bytes]
  rw [ofBytes?, same]
  simp [String.fromUTF8?, String.fromUTF8, text.isValidUTF8]

theorem ofBytes?_eq_some_iff {content : Bytes} {text : String} :
    ofBytes? content = some text ↔ content = bytes text := by
  constructor
  · intro read
    unfold ofBytes? String.fromUTF8? at read
    split at read
    · cases read
      simp [bytes, String.fromUTF8]
    · cases read
  · rintro rfl
    exact ofBytes?_bytes text

theorem bytes_injective {left right : String} (same : bytes left = bytes right) :
    left = right :=
  Option.some.inj ((ofBytes?_bytes left).symm.trans (same ▸ ofBytes?_bytes right))

theorem bytes_append (left right : String) :
    bytes (left ++ right) = bytes left ++ bytes right := by
  simp [bytes]

theorem bytes_ofList (characters : List Char) :
    bytes (String.ofList characters) = characters.flatMap String.utf8EncodeChar := by
  simp [bytes, List.utf8Encode]

/-! ASCII characters are bytes of their own. -/

private theorem utf8EncodeChar_of_ascii {character : Char}
    (ascii : character.toNat < 128) :
    String.utf8EncodeChar character = [UInt8.ofNat character.toNat] := by
  have size : character.utf8Size = 1 := by
    rw [Char.utf8Size_eq_one_iff, UInt32.le_iff_toNat_le]
    exact Nat.le_of_lt_succ ascii
  rw [String.utf8EncodeChar_eq_singleton size]
  rfl

theorem bytes_ofList_of_ascii {characters : List Char}
    (ascii : ∀ character ∈ characters, character.toNat < 128) :
    bytes (String.ofList characters) =
      characters.map (fun character => UInt8.ofNat character.toNat) := by
  rw [bytes_ofList]
  induction characters with
  | nil => rfl
  | cons character rest induction =>
      rw [List.flatMap_cons, utf8EncodeChar_of_ascii (ascii character List.mem_cons_self),
        induction fun other member => ascii other (List.mem_cons_of_mem _ member)]
      rfl

private theorem toNat_ofNat_of_ascii {code : Nat} (ascii : code < 128) :
    (Char.ofNat code).toNat = code := by
  revert code
  decide

def ofAscii (content : Bytes) : String :=
  String.ofList (content.map (fun byte => Char.ofNat byte.toNat))

section Ascii

variable {content : Bytes} (ascii : ∀ byte ∈ content, byte.toNat < 128)

include ascii

theorem bytes_ofAscii : bytes (ofAscii content) = content := by
  have codes : ∀ byte ∈ content, (Char.ofNat byte.toNat).toNat = byte.toNat :=
    fun byte member => toNat_ofNat_of_ascii (ascii byte member)
  rw [ofAscii, bytes_ofList_of_ascii, List.map_map]
  · refine (List.map_congr_left fun byte member => ?_).trans (List.map_id content)
    rw [Function.comp_apply, codes byte member, UInt8.ofNat_toNat, id]
  · intro character member
    rcases List.mem_map.1 member with ⟨byte, here, rfl⟩
    rw [codes byte here]
    exact ascii byte here

theorem ofBytesTolerantly_of_ascii : ofBytesTolerantly content = ofAscii content := by
  rw [ofBytesTolerantly, ofAscii]
  congr 1
  induction content with
  | nil => rfl
  | cons byte rest induction =>
      have small := ascii byte List.mem_cons_self
      simp only [decodeTolerantly, beginCharacter, small, if_true, List.map_cons,
        List.singleton_append]
      rw [induction fun other member => ascii other (List.mem_cons_of_mem _ member)]

end Ascii

/-! The parts of a text. -/

theorem isBlank_of_visible {character : Char} (low : 33 ≤ character.toNat)
    (high : character.toNat < 127) : isBlank character = false := by
  simp [isBlank]
  omega

private theorem dropWhile_isBlank {characters : List Char}
    (unblank : ∀ character ∈ characters, isBlank character = false) :
    characters.dropWhile isBlank = characters := by
  cases characters with
  | nil => rfl
  | cons character rest =>
      rw [List.dropWhile_cons, unblank character List.mem_cons_self,
        if_neg Bool.false_ne_true]

/-! What is removed from the ends of a text. -/

theorem trimRight_of_all {drop : Char → Bool} {characters : List Char}
    (dropped : ∀ character ∈ characters, drop character = true) :
    trimRight drop characters = [] :=
  List.rdropWhile_eq_nil_iff.2 dropped

theorem trimRight_append {drop : Char → Bool} {front : List Char}
    (kept : ∀ character, front.getLast? = some character → drop character = false)
    (rest : List Char) :
    trimRight drop (front ++ rest) = front ++ trimRight drop rest := by
  have whole : front.reverse.dropWhile drop = front.reverse := by
    cases reversed : front.reverse with
    | nil => rfl
    | cons last others =>
        have stays := kept last (by rw [← List.head?_reverse, reversed]; rfl)
        exact List.dropWhile_cons_of_neg (by rw [stays]; exact Bool.false_ne_true)
  simp only [trimRight, List.reverse_append, List.dropWhile_append]
  split
  · rename_i nothing
    rw [List.isEmpty_iff.1 nothing, whole, List.reverse_reverse, List.reverse_nil,
      List.append_nil]
  · rw [List.reverse_append, List.reverse_reverse]

theorem trim_blanks (before behind : List Char) {text : List Char}
    (front : ∀ character ∈ before, isBlank character = true)
    (back : ∀ character ∈ behind, isBlank character = true)
    (unblank : ∀ character ∈ text, isBlank character = false) :
    trim (before ++ text ++ behind) = text := by
  have opened :
      (before ++ text ++ behind).dropWhile isBlank =
        (text ++ behind).dropWhile isBlank := by
    rw [List.append_assoc, List.dropWhile_append_of_pos front]
  rw [trim, opened, List.dropWhile_append, dropWhile_isBlank unblank]
  split
  · rename_i empty
    rw [List.dropWhile_eq_nil_iff.2 back, List.isEmpty_iff.1 empty]
    rfl
  · rw [trimRight_append, trimRight_of_all back, List.append_nil]
    exact fun character last => unblank character (List.mem_of_getLast? last)

theorem trim_of_unblank {text : List Char}
    (unblank : ∀ character ∈ text, isBlank character = false) : trim text = text := by
  simpa using trim_blanks [] [] nofun nofun unblank

theorem exists_blanks (text : List Char) : ∃ before behind,
    (∀ character ∈ before, isBlank character = true) ∧
      (∀ character ∈ behind, isBlank character = true) ∧ text = before ++ trim text ++
        behind := by
  refine ⟨text.takeWhile isBlank, (text.dropWhile isBlank).rtakeWhile isBlank, ?_, ?_, ?_⟩
  · exact fun character member => List.mem_takeWhile_imp member
  · exact fun character member => List.mem_rtakeWhile_imp member
  · have ending : trim text ++ (text.dropWhile isBlank).rtakeWhile isBlank =
        text.dropWhile isBlank :=
      List.rdropWhile_append_rtakeWhile
    rw [List.append_assoc, ending, List.takeWhile_append_dropWhile]

theorem splitAt_eq_splitOn (separator : Char) (text : List Char) :
    splitAt separator text = text.splitOn separator := by
  induction text with
  | nil => exact (List.splitOn_nil separator).symm
  | cons character rest induction =>
      rw [splitAt, induction, List.splitOn_cons_eq_if_modifyHead]
      cases split : rest.splitOn separator with
      | nil => exact absurd split (List.splitOn_ne_nil separator rest)
      | cons part parts =>
          by_cases here : character = separator
          · simp [here]
          · simp [here]

theorem head?_splitAt (separator : Char) (text : List Char) :
    (splitAt separator text).head? =
      some (text.takeWhile (fun character => character != separator)) := by
  induction text with
  | nil => rfl
  | cons character rest induction =>
      rcases List.head?_eq_some_iff.1 induction with ⟨parts, split⟩
      rw [splitAt, split, List.takeWhile_cons]
      by_cases here : character = separator
      · simp [here]
      · simp [here]

end Gateway.Text
