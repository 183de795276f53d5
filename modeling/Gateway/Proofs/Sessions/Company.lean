import Gateway.Affinity.Carrier
import Gateway.Proofs.Sessions.Keys

namespace Gateway.Http.Cookie

/-! The cookie of a session in the company of others. Headers are bytes here, which need
not be plain text: then nothing of the header is read, whatever else it holds. -/

def separator : UInt8 := 59

def sign : UInt8 := 61

/-- Spaces and tabs do not count around a part of a header, nor around a name. -/
def isGap (byte : UInt8) : Bool :=
  byte == 32 || byte == 9

def strip (content : Bytes) : Bytes :=
  (content.dropWhile isGap).rdropWhile isGap

/-- A part is a cookie of a name if that is what stands before its first equals sign. -/
def Named (part : Bytes) (name : String) : Prop :=
  sign ∈ part ∧ strip (part.takeWhile (fun byte => byte != sign)) = Text.bytes name

/-- A part sets a name to a value and holds nothing else. -/
def Bears (part : Bytes) (name value : String) : Prop :=
  strip part = Text.bytes (name ++ "=" ++ value)

instance (part : Bytes) (name : String) : Decidable (Named part name) :=
  inferInstanceAs (Decidable (_ ∧ _))

instance (part : Bytes) (name value : String) : Decidable (Bears part name value) :=
  inferInstanceAs (Decidable (_ = _))

/-- A value in base64, with or without padding. -/
def Encoded (value : String) : Prop :=
  ∀ character ∈ value.toList,
    character = '=' ∨ ∃ number < 64, character = Char.ofNat (Base64.symbol number).toNat

private theorem of_encoded {value : String} (encoded : Encoded value) {character : Char}
    (member : character ∈ value.toList) :
    Text.isBlank character = false ∧ character ≠ '"' := by
  rcases encoded character member with rfl | ⟨number, bounded, rfl⟩
  · decide
  · clear member
    revert number
    decide

def characters (content : Bytes) : List Char :=
  content.map (fun byte => Char.ofNat byte.toNat)

def Legible (content : Bytes) : Prop :=
  ∀ byte ∈ content, Header.isPlainByte byte = true

instance (content : Bytes) : Decidable (Legible content) :=
  List.decidableBAll _ content

theorem plainText?_of_legible {content : Bytes} (legible : Legible content) :
    Header.plainText? content = some (characters content) :=
  if_pos (List.all_eq_true.2 legible)

theorem plainText?_of_illegible {content : Bytes} (illegible : ¬ Legible content) :
    Header.plainText? content = none :=
  if_neg fun plain => illegible (List.all_eq_true.1 plain)

/-! Plain bytes and their characters mean the same to a reader. -/

private theorem of_isPlainByte {byte : UInt8} (plain : Header.isPlainByte byte = true) :
    byte.toNat < 128 ∧ Text.isBlank (Char.ofNat byte.toNat) = isGap byte ∧
      (Char.ofNat byte.toNat = ';' ↔ byte = separator) ∧
      (Char.ofNat byte.toNat = '=' ↔ byte = sign) := by
  have codes : ∀ code < 256, Header.isPlainByte (UInt8.ofNat code) = true →
      (UInt8.ofNat code).toNat < 128 ∧
        Text.isBlank (Char.ofNat (UInt8.ofNat code).toNat) = isGap (UInt8.ofNat code) ∧
        (Char.ofNat (UInt8.ofNat code).toNat = ';' ↔ UInt8.ofNat code = separator) ∧
        (Char.ofNat (UInt8.ofNat code).toNat = '=' ↔ UInt8.ofNat code = sign) := by
    decide +kernel
  have holds := codes byte.toNat (Base64.toNat_lt byte)
  rw [UInt8.ofNat_toNat] at holds
  exact holds plain

private theorem characters_reverse (content : Bytes) :
    characters content.reverse = (characters content).reverse :=
  List.map_reverse

section Legible

variable {content : Bytes} (legible : Legible content)

include legible

private theorem dropWhile_characters :
    (characters content).dropWhile Text.isBlank =
      characters (content.dropWhile isGap) := by
  induction content with
  | nil => rfl
  | cons byte rest induction =>
      rcases List.forall_mem_cons.1 legible with ⟨plain, others⟩
      rw [characters, List.map_cons, List.dropWhile_cons, List.dropWhile_cons,
        (of_isPlainByte plain).2.1]
      split
      · exact induction others
      · rfl

private theorem trim_characters :
    Text.trim (characters content) = characters (strip content) := by
  have others : Legible (content.dropWhile isGap).reverse := fun byte member =>
    legible byte ((List.dropWhile_sublist isGap).mem (List.mem_reverse.1 member))
  rw [Text.trim, dropWhile_characters legible, Text.trimRight, ← characters_reverse,
    dropWhile_characters others, ← characters_reverse]
  rfl

private theorem takeWhile_characters :
    (characters content).takeWhile (fun character => character != '=') =
      characters (content.takeWhile (fun byte => byte != sign)) := by
  induction content with
  | nil => rfl
  | cons byte rest induction =>
      rcases List.forall_mem_cons.1 legible with ⟨plain, others⟩
      have same : (Char.ofNat byte.toNat != '=') = (byte != sign) := by
        rw [Bool.eq_iff_iff, bne_iff_ne, bne_iff_ne, Ne, (of_isPlainByte plain).2.2.2]
      rw [characters, List.map_cons, List.takeWhile_cons, List.takeWhile_cons, same]
      split
      · exact congrArg (List.cons _) (induction others)
      · rfl

private theorem splitAt_characters :
    Text.splitAt ';' (characters content) =
      (content.splitOn separator).map characters := by
  rw [Text.splitAt_eq_splitOn]
  induction content with
  | nil => simp [characters]
  | cons byte rest induction =>
      rcases List.forall_mem_cons.1 legible with ⟨plain, others⟩
      have same : (Char.ofNat byte.toNat == ';') = (byte == separator) := by
        rw [Bool.eq_iff_iff, beq_iff_eq, beq_iff_eq, (of_isPlainByte plain).2.2.1]
      rw [characters, List.map_cons, List.splitOn_cons_eq_if_modifyHead,
        List.splitOn_cons_eq_if_modifyHead, same, ← characters, induction others]
      cases rest.splitOn separator with
      | nil => split <;> rfl
      | cons part parts => split <;> rfl

private theorem bytes_characters :
    Text.bytes (String.ofList (characters content)) = content :=
  Text.bytes_ofAscii fun byte member => (of_isPlainByte (legible byte member)).1

theorem legible_of_mem_splitOn {part : Bytes}
    (member : part ∈ content.splitOn separator) :
    Legible part := by
  induction content generalizing part with
  | nil =>
      rw [List.splitOn_nil] at member
      cases List.mem_singleton.1 member
      exact nofun
  | cons byte rest induction =>
      rcases List.forall_mem_cons.1 legible with ⟨plain, others⟩
      rw [List.splitOn_cons_eq_if_modifyHead] at member
      split at member
      · rcases List.mem_cons.1 member with rfl | member
        · exact nofun
        · exact induction others member
      · cases split : rest.splitOn separator with
        | nil => exact absurd split (List.splitOn_ne_nil separator rest)
        | cons first parts =>
            rw [split] at member induction
            rcases List.mem_cons.1 member with rfl | member
            · exact List.forall_mem_cons.2 ⟨plain, induction others List.mem_cons_self⟩
            · exact induction others (List.mem_cons_of_mem _ member)

private theorem legible_strip : Legible (strip content) := fun byte member =>
  legible byte
    ((List.dropWhile_sublist isGap).mem ((List.rdropWhile_prefix isGap _).mem member))

theorem characters_of_eq_bytes {text : String} (same : content = Text.bytes text) :
    characters content = text.toList := by
  rw [← bytes_characters legible] at same
  rw [← Text.bytes_injective same, String.toList_ofList]

/-! The parts that set the session's cookie, and those that are other cookies. -/

private theorem named_of_sets {name value : String}
    (sets : Sets (characters content) name value) :
    Named content name := by
  rcases sets with ⟨left, right, split, unsigned, front, -⟩
  constructor
  · have member : '=' ∈ characters content := by
      rw [split]
      exact List.mem_append_right _ List.mem_cons_self
    rcases List.mem_map.1 member with ⟨byte, here, same⟩
    exact (of_isPlainByte (legible byte here)).2.2.2.1 same ▸ here
  · have kept : Legible (content.takeWhile (fun byte => byte != sign)) :=
      fun byte member => legible byte ((List.takeWhile_sublist _).mem member)
    have apart : ∀ character ∈ left, (character != '=') = true := fun character member =>
      bne_iff_ne.2 fun same => unsigned (same ▸ member)
    have before : characters (content.takeWhile (fun byte => byte != sign)) = left := by
      rw [← takeWhile_characters legible, split, List.takeWhile_append_of_pos apart]
      simp
    rw [← bytes_characters (legible_strip kept), ← trim_characters kept, before, front,
      String.ofList_toList]

private theorem sets_of_bears {name value : String} (valid : Header.isName name = true)
    (encoded : Encoded value) (bears : Bears content name value) :
    Sets (characters content) name value := by
  have named :
      ∀ character ∈ name.toList, Text.isBlank character = false ∧ character ≠ '=' := by
    intro character member
    have codes := Header.of_isNameCharacter ((Header.of_isName valid).2 character member)
    exact ⟨Text.isBlank_of_visible codes.1 codes.2.1, codes.2.2.2⟩
  have whole : Text.trim (characters content) = name.toList ++ '=' :: value.toList := by
    rw [trim_characters legible, characters_of_eq_bytes (legible_strip legible) bears]
    simp
  rcases Text.exists_blanks (characters content) with ⟨before, behind, front, back, split⟩
  refine ⟨before ++ name.toList, value.toList ++ behind, ?_, ?_, ?_, ?_⟩
  · rw [split, whole]
    simp
  · intro member
    rcases List.mem_append.1 member with blank | character
    · exact absurd (front _ blank) (by decide)
    · exact (named _ character).2 rfl
  · simpa using Text.trim_blanks before [] front nofun fun character member =>
      (named character member).1
  · simpa using Text.trim_blanks [] behind nofun back fun character member =>
      (of_encoded encoded member).1

end Legible

theorem mem_parts {request : Request} {part : List Char} :
    part ∈ parts request ↔ ∃ content ∈ request.headers.values "cookie", Legible content ∧
      ∃ piece ∈ content.splitOn separator, characters piece = part := by
  rw [parts, List.mem_flatMap]
  constructor
  · rintro ⟨header, member, here⟩
    rcases List.mem_filterMap.1 member with ⟨content, brought, plain⟩
    by_cases legible : Legible content
    · cases (plainText?_of_legible legible).symm.trans plain
      rw [splitAt_characters legible] at here
      exact ⟨content, brought, legible, List.mem_map.1 here⟩
    · cases (plainText?_of_illegible legible).symm.trans plain
  · rintro ⟨content, brought, legible, piece, member, rfl⟩
    refine ⟨characters content, List.mem_filterMap.2 ⟨content, brought, ?_⟩, ?_⟩
    · exact plainText?_of_legible legible
    · rw [splitAt_characters legible]
      exact List.mem_map_of_mem member

/-- Some header of a request is plain text and has the cookie as one of its parts. -/
def Shown (request : Request) (name value : String) : Prop :=
  ∃ content ∈ request.headers.values "cookie", Legible content ∧
    ∃ part ∈ content.splitOn separator, Bears part name value

instance (request : Request) (name value : String) :
    Decidable (Shown request name value) :=
  have (content : Bytes) :
      Decidable (∃ part ∈ content.splitOn separator, Bears part name value) :=
    List.decidableBEx _ _
  List.decidableBEx _ _

end Gateway.Http.Cookie

namespace Gateway.KeyCarrier

open Http Cookie

/-- In the company of parts that are no cookies of its name, whatever bytes they are made
of, the cookie of a session is read if a header that is plain text shows it, and otherwise
nothing is read: a single byte above ASCII, in any part, hides all parts of its header. -/
theorem cookie_read_in_company (config : AffinityConfig)
    (valid : Header.isName config.keyName = true) (value : String)
    (encoded : Encoded value) (request : Request)
    (company : ∀ content ∈ request.headers.values "cookie",
      ∀ part ∈ content.splitOn separator,
        Bears part config.keyName value ∨ ¬ Named part config.keyName) :
    cookie.read config request =
      if Shown request config.keyName value then some value else none := by
  have own : ∀ part ∈ parts request, ∀ other, Sets part config.keyName other →
      Shown request config.keyName value ∧ Sets part config.keyName value := by
    intro part member other sets
    rcases mem_parts.1 member with ⟨content, brought, legible, piece, here, rfl⟩
    have plain := legible_of_mem_splitOn legible here
    have bears := (company content brought piece here).resolve_right
      (not_not_intro (named_of_sets plain sets))
    exact ⟨⟨content, brought, legible, piece, here, bears⟩,
      sets_of_bears plain valid encoded bears⟩
  change ((ofRequest request).find? (fun cookie => cookie.1 == config.keyName)).map
    Prod.snd = _
  split
  · rename_i shown
    rcases shown with ⟨content, brought, legible, piece, here, bears⟩
    have member := mem_parts.2 ⟨content, brought, legible, piece, here, rfl⟩
    have bearing :=
      sets_of_bears (legible_of_mem_splitOn legible here) valid encoded bears
    -- the cookie that counts is that of the first part that sets the name
    classical
    have present : ((parts request).find?
        (fun part => decide (∃ other, Sets part config.keyName other))).isSome :=
      List.find?_isSome.2 ⟨_, member, decide_eq_true ⟨value, bearing⟩⟩
    rcases Option.isSome_iff_exists.1 present with ⟨part, found⟩
    rcases List.find?_eq_some_iff_append.1 found with ⟨sets, before, behind, split, first⟩
    rcases of_decide_eq_true sets with ⟨other, sets⟩
    have own := own part (List.mem_of_find?_eq_some found) other sets
    have unset : ∀ part ∈ before, ∀ other, ¬ Sets part config.keyName other := by
      intro part member other sets
      have absent := first part member
      rw [Bool.not_eq_true', decide_eq_false_iff_not] at absent
      exact absent ⟨other, sets⟩
    rw [find?_ofRequest split own.2 unset (Header.of_isName valid).1
      (fun member => (of_encoded encoded member).2 rfl)
      (fun _ member => (of_encoded encoded member).1)]
    rfl
  · rename_i hidden
    rw [ofRequest_eq, find?_of_unset, Option.map_none]
    exact fun part member other sets => hidden (own part member other sets).1

/-- A theme with an umlaut beside the cookie, and then a plain header with the cookie
too. -/
theorem cookie_read_in_company_of_umlaut :
    let config : AffinityConfig := { keyName := "session" }
    let themed : String × Bytes := ("cookie", Text.bytes "theme=dunkelgrün; session=YQ")
    let plain : String × Bytes := ("cookie", Text.bytes "lang=de;\tsession=YQ ")
    cookie.read config { headers := { fields := [themed] } } = none ∧
      cookie.read config { headers := { fields := [themed, plain] } } = some "YQ" := by
  intro config themed plain
  have valid : Header.isName config.keyName = true := by decide +kernel
  have encoded : Encoded "YQ" := by
    intro character member
    rcases List.mem_cons.1 (show character ∈ ['Y', 'Q'] from member) with rfl | member
    · exact .inr ⟨24, by decide, rfl⟩
    · cases List.mem_singleton.1 member
      exact .inr ⟨16, by decide, rfl⟩
  constructor
  · rw [cookie_read_in_company config valid "YQ" encoded _ (by decide +kernel)]
    exact if_neg (by decide +kernel)
  · rw [cookie_read_in_company config valid "YQ" encoded _ (by decide +kernel)]
    exact if_pos (by decide +kernel)

end Gateway.KeyCarrier
