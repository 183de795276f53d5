import Gateway.Decimal.Reading
import Gateway.Proofs.Decimal.Nearest

namespace Gateway.Decimal

/-! The texts that are read as numbers, told by how numbers are spelled. -/

def letters (digits : List (Fin 10)) : List Char :=
  digits.map fun digit : Fin 10 => Nat.digitChar digit

/-- The number that digits spell, the first of them counting most. -/
def number (digits : List (Fin 10)) : Nat :=
  Nat.ofDigits 10 (digits.reverse.map Fin.val)

inductive Numeral : List Char → Nat → Prop
  | plain {digits : List (Fin 10)} (some : digits ≠ []) :
      Numeral (letters digits) (number digits)
  | plus {digits : List (Fin 10)} (some : digits ≠ []) :
      Numeral ('+' :: letters digits) (number digits)

inductive Integer : List Char → Int → Prop
  | plain {digits : List (Fin 10)} (some : digits ≠ []) :
      Integer (letters digits) (number digits)
  | plus {digits : List (Fin 10)} (some : digits ≠ []) :
      Integer ('+' :: letters digits) (number digits)
  | minus {digits : List (Fin 10)} (some : digits ≠ []) :
      Integer ('-' :: letters digits) (-number digits)

inductive Power : List Char → Int → Prop
  | none : Power [] 0
  | marked {mark : Char} {rest : List Char} {power : Int} (marked : mark ∈ ['e', 'E'])
      (raised : Integer rest power) : Power (mark :: rest) power

inductive Magnitude : List Char → ℚ → Prop
  | whole {digits : List (Fin 10)} {tail : List Char} {power : Int} (some : digits ≠ [])
      (raised : Power tail power) :
      Magnitude (letters digits ++ tail) (number digits * 10 ^ power)
  | pointed {whole fraction : List (Fin 10)} {tail : List Char} {power : Int}
      (some : whole ++ fraction ≠ []) (raised : Power tail power) :
      Magnitude (letters whole ++ '.' :: (letters fraction ++ tail))
        ((number whole + number fraction / 10 ^ fraction.length) * 10 ^ power)

/-- The bits of a number without a sign: the nearest ones there are, or those of a number
that has only a name. -/
inductive Unsigned : List Char → Nat → Prop
  | infinity {characters : List Char}
      (named : String.ofList (characters.map Char.toLower) ∈ ["inf", "infinity"]) :
      Unsigned characters 0x7ff0000000000000
  | notANumber {characters : List Char}
      (named : String.ofList (characters.map Char.toLower) = "nan") :
      Unsigned characters 0x7ff8000000000000
  | finite {characters : List Char} {magnitude : ℚ} {bits : Nat}
      (spelled : Magnitude characters magnitude)
      (near : Nearest (magnitude * 2 ^ 1074) bits) :
      Unsigned characters bits

inductive Spelling : List Char → UInt64 → Prop
  | plain {characters : List Char} {bits : Nat} (read : Unsigned characters bits) :
      Spelling characters (.ofNat bits)
  | plus {characters : List Char} {bits : Nat} (read : Unsigned characters bits) :
      Spelling ('+' :: characters) (.ofNat bits)
  | minus {characters : List Char} {bits : Nat} (read : Unsigned characters bits) :
      Spelling ('-' :: characters) (.ofNat (2 ^ 63 + bits))

/-! Digits. -/

private theorem number_append (digits others : List (Fin 10)) :
    number (digits ++ others) = number digits * 10 ^ others.length + number others := by
  rw [number, List.reverse_append, List.map_append, Nat.ofDigits_append, List.length_map,
    List.length_reverse, number, number]
  ring

private theorem isDigit_digitChar (digit : Fin 10) : isDigit (Nat.digitChar digit) := by
  revert digit
  decide

private theorem digitValue_digitChar (digit : Fin 10) :
    digitValue (Nat.digitChar digit) = digit := by
  revert digit
  decide

private theorem exists_digitChar {character : Char} (digit : isDigit character) :
    ∃ digit : Fin 10, character = Nat.digitChar digit := by
  rw [isDigit, Bool.and_eq_true, decide_eq_true_eq, decide_eq_true_eq] at digit
  have table : ∀ code : Fin 10, Char.ofNat (48 + code) = Nat.digitChar code := by decide
  have least : 48 ≤ character.toNat := digit.1
  have most : character.toNat ≤ 57 := digit.2
  have same := table ⟨character.toNat - 48, by omega⟩
  refine ⟨_, Eq.trans ?_ same⟩
  rw [Nat.add_sub_cancel' least, Char.ofNat_toNat]

private theorem isDigit_of_mem_letters {digits : List (Fin 10)} {character : Char}
    (there : character ∈ letters digits) : isDigit character := by
  rcases List.mem_map.1 there with ⟨digit, -, rfl⟩
  exact isDigit_digitChar digit

private theorem exists_letters {characters : List Char}
    (digits : ∀ character ∈ characters, isDigit character) :
    ∃ digits, characters = letters digits := by
  induction characters with
  | nil => exact ⟨[], rfl⟩
  | cons character rest induction =>
      rw [List.forall_mem_cons] at digits
      rcases exists_digitChar digits.1 with ⟨digit, rfl⟩
      rcases induction digits.2 with ⟨others, rfl⟩
      exact ⟨digit :: others, rfl⟩

@[simp] theorem letters_eq_nil {digits : List (Fin 10)} :
    letters digits = [] ↔ digits = [] :=
  List.map_eq_nil_iff

private theorem natOfDigits_letters (digits : List (Fin 10)) :
    natOfDigits (letters digits) = number digits := by
  induction digits using List.reverseRecOn with
  | nil => rfl
  | append_singleton digits digit induction =>
      rw [number_append, List.length_singleton, pow_one, ← induction, natOfDigits,
        letters, List.map_append, List.foldl_append]
      exact congrArg (natOfDigits (letters digits) * 10 + ·) (digitValue_digitChar digit)

private theorem digits?_eq_some {characters : List Char} {value : Nat} :
    digits? characters = some value ↔
      ∃ digits, digits ≠ [] ∧ characters = letters digits ∧ number digits = value := by
  rw [digits?, Option.ite_none_left_eq_some, Option.some_inj, Bool.or_eq_true, not_or,
    List.isEmpty_iff, Bool.not_eq_true, Bool.not_eq_false', List.all_eq_true]
  constructor
  · rintro ⟨⟨some, regular⟩, rfl⟩
    rcases exists_letters regular with ⟨digits, rfl⟩
    exact ⟨digits, fun none => some (letters_eq_nil.2 none), rfl,
      (natOfDigits_letters digits).symm⟩
  · rintro ⟨digits, some, rfl, rfl⟩
    exact ⟨⟨fun none => some (letters_eq_nil.1 none), fun _ => isDigit_of_mem_letters⟩,
      natOfDigits_letters digits⟩

/-! Signs are no digits. -/

private theorem letters_ne_cons {digits : List (Fin 10)} {character : Char}
    {rest : List Char} (other : isDigit character = false) :
    letters digits ≠ character :: rest := by
  intro same
  have digit :=
    isDigit_of_mem_letters (same ▸ List.mem_cons_self : character ∈ letters digits)
  exact Bool.false_ne_true (other.symm.trans digit)

private theorem natural?_eq_some {characters : List Char} {value : Nat} :
    natural? characters = some value ↔ Numeral characters value := by
  constructor
  · unfold natural?
    split
    · intro read
      rcases digits?_eq_some.1 read with ⟨digits, some, rfl, rfl⟩
      exact .plus some
    · intro read
      rcases digits?_eq_some.1 read with ⟨digits, some, rfl, rfl⟩
      exact .plain some
  · intro numeral
    cases numeral with
    | plain some =>
        rename_i digits
        have read := digits?_eq_some.2 ⟨digits, some, rfl, rfl⟩
        unfold natural?
        split
        · rename_i rest same
          exact absurd same (letters_ne_cons (by decide))
        · exact read
    | plus some => exact digits?_eq_some.2 ⟨_, some, rfl, rfl⟩

theorem naturalBelow?_eq_some {bound value : Nat} {text : String} :
    naturalBelow? bound text = some value ↔
      Numeral text.toList value ∧ value < bound := by
  rw [naturalBelow?, Option.filter_eq_some_iff, natural?_eq_some, decide_eq_true_eq]

private theorem integer?_eq_some {characters : List Char} {value : Int} :
    integer? characters = some value ↔ Integer characters value := by
  constructor
  · unfold integer?
    split
    all_goals
      intro read
      rcases Option.map_eq_some_iff.1 read with ⟨natural, found, rfl⟩
      rcases digits?_eq_some.1 found with ⟨digits, some, rfl, rfl⟩
    · exact .minus some
    · exact .plus some
    · exact .plain some
  · intro spelled
    cases spelled with
    | plain some =>
        rename_i digits
        have read := digits?_eq_some.2 ⟨digits, some, rfl, rfl⟩
        unfold integer?
        split
        · rename_i rest same
          exact absurd same (letters_ne_cons (by decide))
        · rename_i rest same
          exact absurd same (letters_ne_cons (by decide))
        · rw [read, Option.map_some]
    | plus some =>
        exact Option.map_eq_some_iff.2 ⟨_, digits?_eq_some.2 ⟨_, some, rfl, rfl⟩, rfl⟩
    | minus some =>
        exact Option.map_eq_some_iff.2 ⟨_, digits?_eq_some.2 ⟨_, some, rfl, rfl⟩, rfl⟩

private theorem exponent?_eq_some {characters : List Char} {power : Int} :
    exponent? characters = some power ↔ Power characters power := by
  cases characters with
  | nil =>
      rw [exponent?, Option.some_inj]
      constructor
      · rintro rfl
        exact .none
      · rintro ⟨⟩
        rfl
  | cons mark rest =>
      have marks : (mark = 'e' || mark = 'E') = true ↔ mark ∈ ['e', 'E'] := by simp
      rw [exponent?, Option.ite_none_right_eq_some, marks, integer?_eq_some]
      constructor
      · rintro ⟨marked, raised⟩
        exact .marked marked raised
      · rintro ⟨marked, raised⟩
        exact ⟨‹_›, ‹_›⟩

/-! Digits stop where something else begins. -/

def Stops (rest : List Char) : Prop :=
  ∀ character ∈ rest.head?, isDigit character = false

private theorem takeWhile_stops {rest : List Char} (stops : Stops rest) :
    rest.takeWhile isDigit = [] ∧ rest.dropWhile isDigit = rest := by
  cases rest with
  | nil => exact ⟨rfl, rfl⟩
  | cons character rest =>
      have other := stops character rfl
      rw [List.takeWhile_cons, List.dropWhile_cons, other]
      exact ⟨rfl, rfl⟩

private theorem takeWhile_letters (digits : List (Fin 10)) {rest : List Char}
    (stops : Stops rest) :
    (letters digits ++ rest).takeWhile isDigit = letters digits := by
  rw [List.takeWhile_append_of_pos fun _ => isDigit_of_mem_letters,
    (takeWhile_stops stops).1, List.append_nil]

private theorem dropWhile_letters (digits : List (Fin 10)) {rest : List Char}
    (stops : Stops rest) :
    (letters digits ++ rest).dropWhile isDigit = rest := by
  rw [List.dropWhile_append_of_pos fun _ => isDigit_of_mem_letters,
    (takeWhile_stops stops).2]

private theorem exists_letters_append (characters : List Char) :
    ∃ digits rest, characters = letters digits ++ rest ∧ Stops rest := by
  have digits : ∀ character ∈ characters.takeWhile isDigit, isDigit character := fun _ =>
    List.mem_takeWhile_imp
  rcases exists_letters digits with ⟨digits, same⟩
  refine ⟨digits, characters.dropWhile isDigit, ?_, fun character first => ?_⟩
  · rw [← same, List.takeWhile_append_dropWhile]
  · have stopped := List.head?_dropWhile_not isDigit characters
    rw [Option.mem_def.1 first] at stopped
    exact stopped

private theorem Power.stops {tail : List Char} {power : Int} (raised : Power tail power) :
    Stops tail ∧ ∀ rest, tail ≠ '.' :: rest := by
  cases raised with
  | none => exact ⟨nofun, nofun⟩
  | marked marked raised =>
      rename_i mark rest
      have other : isDigit mark = false ∧ mark ≠ '.' := by
        rcases List.mem_pair.1 marked with rfl | rfl
        · decide
        · decide
      refine ⟨fun character first => ?_, fun rest same => ?_⟩
      · rcases Option.some_inj.1 first with rfl
        exact other.1
      · exact other.2 (List.head_eq_of_cons_eq same)

/-! Decimals. -/

private theorem scaled?_eq_some (whole fraction : List (Fin 10)) {tail : List Char}
    {bits : Nat} :
    scaled? (letters whole) (letters fraction) tail = some bits ↔
      whole ++ fraction ≠ [] ∧ ∃ power, Power tail power ∧
        Nearest
          ((number whole + number fraction / 10 ^ fraction.length) * 10 ^ power *
            2 ^ 1074)
          bits := by
  have none : ((letters whole).isEmpty && (letters fraction).isEmpty) = true ↔
      whole ++ fraction = [] := by
    rw [Bool.and_eq_true, List.isEmpty_iff, List.isEmpty_iff, letters_eq_nil,
      letters_eq_nil, List.append_eq_nil_iff]
  have joined : letters whole ++ letters fraction = letters (whole ++ fraction) :=
    List.map_append.symm
  have length : (letters fraction).length = fraction.length := List.length_map _
  rw [scaled?, Option.ite_none_left_eq_some, none, Option.map_eq_some_iff]
  refine and_congr_right fun _ => exists_congr fun power => ?_
  rw [exponent?_eq_some, joined, natOfDigits_letters, length]
  refine and_congr_right fun _ => ?_
  have value : (number (whole ++ fraction) : ℚ) * 10 ^ (power - fraction.length) =
      (number whole + number fraction / 10 ^ fraction.length) * 10 ^ power := by
    rw [number_append, zpow_sub₀ (by norm_num), zpow_natCast]
    push_cast
    field_simp
  have rounded := nearest_round (number (whole ++ fraction)) (power - fraction.length)
  rw [value] at rounded
  constructor
  · rintro rfl
    exact rounded
  · exact rounded.unique

private theorem number_nothing (whole : List (Fin 10)) :
    (number whole : ℚ) + number [] / 10 ^ ([] : List (Fin 10)).length = number whole := by
  simp [number]

private theorem magnitude?_eq_some {characters : List Char} {bits : Nat} :
    magnitude? characters = some bits ↔
      ∃ magnitude,
        Magnitude characters magnitude ∧ Nearest (magnitude * 2 ^ 1074) bits := by
  constructor
  · intro read
    rcases exists_letters_append characters with ⟨whole, tail, rfl, outer⟩
    rw [magnitude?, takeWhile_letters whole outer, dropWhile_letters whole outer] at read
    split at read
    · rename_i rest
      rcases exists_letters_append rest with ⟨fraction, tail, rfl, stops⟩
      rw [takeWhile_letters fraction stops, dropWhile_letters fraction stops] at read
      rcases (scaled?_eq_some _ _).1 read with ⟨some, power, raised, near⟩
      exact ⟨_, .pointed some raised, near⟩
    · rcases (scaled?_eq_some _ []).1 read with ⟨some, power, raised, near⟩
      rw [List.append_nil] at some
      rw [number_nothing] at near
      exact ⟨_, .whole some raised, near⟩
  · rintro ⟨magnitude, spelled, near⟩
    cases spelled with
    | whole some raised =>
        rename_i digits tail power
        rcases raised.stops with ⟨stops, pointless⟩
        rw [← number_nothing] at near
        have read := (scaled?_eq_some _ []).2
          ⟨(List.append_nil digits).symm ▸ some, power, raised, near⟩
        rw [magnitude?, takeWhile_letters digits stops, dropWhile_letters digits stops]
        split
        · exact absurd rfl (pointless _)
        · exact read
    | pointed some raised =>
        rename_i whole fraction tail power
        have point : Stops ('.' :: (letters fraction ++ tail)) := by
          rintro character ⟨⟩
          decide
        have read := (scaled?_eq_some _ _).2 ⟨some, power, raised, near⟩
        rw [magnitude?, takeWhile_letters whole point, dropWhile_letters whole point]
        change scaled? (letters whole) ((letters fraction ++ tail).takeWhile isDigit)
          ((letters fraction ++ tail).dropWhile isDigit) = _
        rw [takeWhile_letters fraction raised.stops.1,
          dropWhile_letters fraction raised.stops.1]
        exact read

/-! Names and signs. -/

theorem Magnitude.head {characters : List Char} {magnitude : ℚ}
    (spelled : Magnitude characters magnitude) :
    ∃ first rest, characters = first :: rest ∧ (isDigit first ∨ first = '.') := by
  cases spelled with
  | whole some raised =>
      rename_i digits tail power
      rcases List.exists_cons_of_ne_nil some with ⟨digit, others, rfl⟩
      exact ⟨_, _, rfl, .inl (isDigit_digitChar digit)⟩
  | pointed some raised =>
      rename_i whole fraction tail power
      cases whole with
      | nil => exact ⟨_, _, rfl, .inr rfl⟩
      | cons digit others => exact ⟨_, _, rfl, .inl (isDigit_digitChar digit)⟩

private theorem head_of_named {characters : List Char} {first : Char} {name : String}
    (named : String.ofList (characters.map Char.toLower) = name)
    (initial : name.toList.head? = some first) :
    ∃ other rest, characters = other :: rest ∧ other.toLower = first := by
  have same := congrArg String.toList named
  rw [String.toList_ofList] at same
  rw [← same] at initial
  cases characters with
  | nil => exact absurd initial nofun
  | cons other rest => exact ⟨other, rest, rfl, Option.some_inj.1 initial⟩

private theorem toLower_of_decimal {first : Char}
    (decimal : isDigit first ∨ first = '.') :
    first.toLower ≠ 'i' ∧ first.toLower ≠ 'n' ∧ first ≠ '+' ∧ first ≠ '-' := by
  rcases decimal with digit | rfl
  · rcases exists_digitChar digit with ⟨digit, rfl⟩
    clear digit
    revert digit
    decide
  · decide

private theorem Magnitude.unnamed {characters : List Char} {magnitude : ℚ} {name : String}
    (spelled : Magnitude characters magnitude)
    (initial : name.toList.head? = some 'i' ∨ name.toList.head? = some 'n') :
    String.ofList (characters.map Char.toLower) ≠ name := by
  intro named
  rcases spelled.head with ⟨first, rest, rfl, decimal⟩
  rcases toLower_of_decimal decimal with ⟨noI, noN, -⟩
  rcases initial with initial | initial
  · rcases head_of_named named initial with ⟨_, _, ⟨rfl, rfl⟩, lower⟩
    exact noI lower
  · rcases head_of_named named initial with ⟨_, _, ⟨rfl, rfl⟩, lower⟩
    exact noN lower

private theorem unsigned?_eq_some {characters : List Char} {bits : Nat} :
    unsigned? characters = some bits ↔ Unsigned characters bits := by
  have infinite : ∀ named : String, (named = "inf" || named = "infinity") = true ↔
      named ∈ ["inf", "infinity"] := by simp
  rw [unsigned?]
  constructor
  · intro read
    split at read
    · rename_i named
      rcases Option.some_inj.1 read with rfl
      exact .infinity ((infinite _).1 named)
    · split at read
      · rename_i named
        rcases Option.some_inj.1 read with rfl
        exact .notANumber named
      · rcases magnitude?_eq_some.1 read with ⟨magnitude, spelled, near⟩
        exact .finite spelled near
  · intro spelled
    cases spelled with
    | infinity named => exact if_pos ((infinite _).2 named)
    | notANumber named =>
        rw [named]
        rfl
    | finite spelled near =>
        have finite :
            ¬ String.ofList (characters.map Char.toLower) ∈ ["inf", "infinity"] := by
          intro named
          rcases List.mem_pair.1 named with named | named
          · exact spelled.unnamed (.inl (by decide)) named
          · exact spelled.unnamed (.inl (by decide)) named
        rw [if_neg (mt (infinite _).1 finite),
          if_neg (spelled.unnamed (.inr (by decide)))]
        exact magnitude?_eq_some.2 ⟨_, spelled, near⟩

theorem Unsigned.head {characters : List Char} {bits : Nat}
    (read : Unsigned characters bits) :
    ∃ first rest, characters = first :: rest ∧ first ≠ '+' ∧ first ≠ '-' := by
  have letter : ∀ first : Char, first.toLower = 'i' ∨ first.toLower = 'n' →
      first ≠ '+' ∧ first ≠ '-' := by
    refine fun first lower => ⟨?_, ?_⟩
    · rintro rfl
      exact absurd lower (by decide)
    · rintro rfl
      exact absurd lower (by decide)
  cases read with
  | infinity named =>
      have initial : ∀ name ∈ ["inf", "infinity"], name.toList.head? = some 'i' := by
        decide
      rcases head_of_named rfl (initial _ named) with ⟨first, rest, same, lower⟩
      exact ⟨first, rest, same, letter first (.inl lower)⟩
  | notANumber named =>
      have initial : "nan".toList.head? = some 'n' := by decide
      rcases head_of_named named initial with ⟨first, rest, same, lower⟩
      exact ⟨first, rest, same, letter first (.inr lower)⟩
  | finite spelled near =>
      rcases spelled.head with ⟨first, rest, same, decimal⟩
      exact ⟨first, rest, same, (toLower_of_decimal decimal).2.2⟩

theorem bits?_eq_some {text : String} {bits : UInt64} :
    bits? text = some bits ↔ Spelling text.toList bits := by
  constructor
  · unfold bits?
    split
    all_goals
      intro read
      rcases Option.map_eq_some_iff.1 read with ⟨magnitude, found, rfl⟩
      have spelled := unsigned?_eq_some.1 found
    · rename_i same
      rw [same]
      exact .minus spelled
    · rename_i same
      rw [same]
      exact .plus spelled
    · exact .plain spelled
  · intro spelled
    rw [bits?]
    generalize text.toList = characters at spelled ⊢
    cases spelled with
    | plain read =>
        rcases read.head with ⟨first, rest, same, plus, minus⟩
        split
        · exact absurd (List.head_eq_of_cons_eq same).symm minus
        · exact absurd (List.head_eq_of_cons_eq same).symm plus
        · exact Option.map_eq_some_iff.2 ⟨_, unsigned?_eq_some.2 read, rfl⟩
    | plus read => exact Option.map_eq_some_iff.2 ⟨_, unsigned?_eq_some.2 read, rfl⟩
    | minus read => exact Option.map_eq_some_iff.2 ⟨_, unsigned?_eq_some.2 read, rfl⟩

end Gateway.Decimal
