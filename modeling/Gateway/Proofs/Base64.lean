import Gateway.Base64

namespace Gateway.Base64

/-! What was written is read back, byte by byte. Groups of three bytes become four symbols
of six bits each. -/

theorem toNat_lt (byte : UInt8) : byte.toNat < 256 :=
  UInt8.toNat_lt byte

theorem mem_encode {content : Bytes} {byte : UInt8} (member : byte ∈ encode content) :
    ∃ value, value < 64 ∧ byte = symbol value := by
  induction content using encode.induct with
  | case1 first second third rest induction =>
      have bounds :=
        And.intro (toNat_lt first) (And.intro (toNat_lt second) (toNat_lt third))
      simp only [encode, List.mem_cons] at member
      rcases member with rfl | rfl | rfl | rfl | member
      · exact ⟨_, by omega, rfl⟩
      · exact ⟨_, by omega, rfl⟩
      · exact ⟨_, by omega, rfl⟩
      · exact ⟨_, by omega, rfl⟩
      · exact induction member
  | case2 first second =>
      have bounds := And.intro (toNat_lt first) (toNat_lt second)
      simp only [encode, List.mem_cons, List.not_mem_nil, or_false] at member
      rcases member with rfl | rfl | rfl
      · exact ⟨_, by omega, rfl⟩
      · exact ⟨_, by omega, rfl⟩
      · exact ⟨_, by omega, rfl⟩
  | case3 first =>
      have bound := toNat_lt first
      simp only [encode, List.mem_cons, List.not_mem_nil, or_false] at member
      rcases member with rfl | rfl
      · exact ⟨_, by omega, rfl⟩
      · exact ⟨_, by omega, rfl⟩
  | case4 => cases member

theorem encode_eq_nil_iff {content : Bytes} : encode content = [] ↔ content = [] := by
  match content with
  | [] => exact iff_of_true rfl rfl
  | [_] | [_, _] | _ :: _ :: _ :: _ => exact iff_of_false nofun nofun

private theorem symbol_ne_pad {value : Nat} (bounded : value < 64) :
    symbol value ≠ pad := by
  intro same
  have read := value?_symbol bounded
  rw [same] at read
  cases read

private theorem valueAt_symbol {value : Nat} (bounded : value < 64) (offset : Nat) :
    valueAt (symbol value) offset = .ok value := by
  rw [valueAt, value?_symbol bounded]

/-! Padding is counted once the group has two symbols. -/

private theorem readLast_padding (offset : Nat) {symbols : Bytes} {count : Nat}
    (enough : count = 0 ∨ 2 ≤ symbols.length) (taken : Nat) :
    readLast offset symbols taken (List.replicate count pad) =
      .ok (symbols, taken + count) := by
  induction count generalizing taken with
  | zero => rfl
  | succ count induction =>
      have long : 2 ≤ symbols.length := enough.resolve_left (Nat.succ_ne_zero count)
      rw [List.replicate_succ, readLast, if_pos rfl, if_neg (by omega),
        induction (.inr long), Nat.add_assoc, Nat.add_comm 1]

theorem readLast_symbols (offset : Nat) {values : List Nat} (bounded : ∀ value ∈ values,
    value < 64)
    {count : Nat} {symbols : Bytes}
    (enough : count = 0 ∨ 2 ≤ symbols.length + values.length) :
    readLast offset symbols 0 (values.map symbol ++ List.replicate count pad) =
      .ok (symbols ++ values.map symbol, count) := by
  induction values generalizing symbols with
  | nil => simpa using readLast_padding offset enough 0
  | cons value rest induction =>
      have small := bounded value List.mem_cons_self
      have enough : count = 0 ∨ 2 ≤ (symbols ++ [symbol value]).length + rest.length := by
        simp at enough ⊢
        omega
      simp only [List.map_cons, List.cons_append, readLast, symbol_ne_pad small,
        value?_symbol small, if_false, Nat.lt_irrefl]
      rw [induction (fun other member =>
        bounded other (List.mem_cons_of_mem _ member)) enough,
        List.append_assoc, List.singleton_append]

theorem filterMap_value?_symbols {values : List Nat}
    (bounded : ∀ value ∈ values, value < 64) :
    (values.map symbol).filterMap value? = values := by
  induction values with
  | nil => rfl
  | cons value rest induction =>
      have small := bounded value List.mem_cons_self
      rw [List.map_cons, List.filterMap_cons_some (value?_symbol small),
        induction fun other member => bounded other (List.mem_cons_of_mem _ member)]

private theorem decodeLast_symbols (offset : Nat) {values : List Nat}
    (bounded : ∀ value ∈ values, value < 64) (enough : 2 ≤ values.length) (count : Nat) :
    decodeLast .indifferent offset (values.map symbol ++ List.replicate count pad) =
      finish offset (values.map symbol) := by
  have filled : (values.map symbol ++ List.replicate count pad).isEmpty = false := by
    cases values with
    | nil => cases enough
    | cons => rfl
  have long : ¬ (values.map symbol).length < 2 := by
    rw [List.length_map]
    omega
  have enough : count = 0 ∨ 2 ≤ List.length ([] : Bytes) + values.length :=
    .inr (by simpa)
  rw [decodeLast, filled, if_neg Bool.false_ne_true,
    readLast_symbols offset bounded enough]
  exact (if_neg long).trans (if_neg fun required => nomatch required.1)

/-! The last group, for every length that it can have. -/

theorem ofNat_of_eq {byte : UInt8} {value : Nat} (same : value = byte.toNat) :
    UInt8.ofNat value = byte := by
  rw [same, UInt8.ofNat_toNat]

private theorem decodeLast_encode_one (offset : Nat) (first : UInt8) (count : Nat) :
    decodeLast .indifferent offset (encode [first] ++ List.replicate count pad) =
      .ok [first] := by
  have bound := toNat_lt first
  have bounded : ∀ value ∈ [first.toNat / 4, first.toNat % 4 * 16], value < 64 := by
    simp
    omega
  refine (decodeLast_symbols offset bounded (Nat.le_refl 2) count).trans ?_
  have aligned : first.toNat % 4 * 16 % 16 = 0 := by omega
  unfold finish
  rw [filterMap_value?_symbols bounded]
  have whole : first.toNat / 4 * 4 + first.toNat % 4 * 16 / 16 = first.toNat := by omega
  simp only [List.map_cons, List.map_nil, aligned, if_true, ofNat_of_eq whole]

private theorem decodeLast_encode_two (offset : Nat) (first second : UInt8)
    (count : Nat) :
    decodeLast .indifferent offset (encode [first, second] ++ List.replicate count pad) =
      .ok [first, second] := by
  have bounds := And.intro (toNat_lt first) (toNat_lt second)
  have bounded : ∀ value ∈ [first.toNat / 4, first.toNat % 4 * 16 + second.toNat / 16,
      second.toNat % 16 * 4], value < 64 := by
    simp
    omega
  refine (decodeLast_symbols offset bounded (Nat.le_add_left 2 1) count).trans ?_
  have aligned : second.toNat % 16 * 4 % 4 = 0 := by omega
  unfold finish
  rw [filterMap_value?_symbols bounded]
  have front : first.toNat / 4 * 4 + (first.toNat % 4 * 16 + second.toNat / 16) / 16 =
      first.toNat := by
    omega
  have back :
      (first.toNat % 4 * 16 + second.toNat / 16) % 16 * 16 + second.toNat % 16 * 4 / 4 =
        second.toNat := by
    omega
  simp only [List.map_cons, List.map_nil, aligned, if_true, ofNat_of_eq front,
    ofNat_of_eq back]

private theorem group_encode (first second third : UInt8) :
    group (first.toNat / 4) (first.toNat % 4 * 16 + second.toNat / 16)
      (second.toNat % 16 * 4 + third.toNat / 64)
      (third.toNat % 64) = [first, second, third] := by
  have bounds := And.intro (toNat_lt first) (And.intro (toNat_lt second) (toNat_lt third))
  have front : first.toNat / 4 * 4 + (first.toNat % 4 * 16 + second.toNat / 16) / 16 =
      first.toNat := by
    omega
  have middle : (first.toNat % 4 * 16 + second.toNat / 16) % 16 * 16 +
      (second.toNat % 16 * 4 + third.toNat / 64) / 4 = second.toNat := by
    omega
  have back : (second.toNat % 16 * 4 + third.toNat / 64) % 4 * 64 + third.toNat % 64 =
      third.toNat := by
    omega
  rw [group, ofNat_of_eq front, ofNat_of_eq middle, ofNat_of_eq back]

section Full

variable (offset : Nat) (first second third : UInt8)

private theorem decodeLast_encode_three :
    decodeLast .indifferent offset (encode [first, second, third]) =
      .ok [first, second, third] := by
  have bounds := And.intro (toNat_lt first) (And.intro (toNat_lt second) (toNat_lt third))
  have bounded : ∀ value ∈ [first.toNat / 4, first.toNat % 4 * 16 + second.toNat / 16,
      second.toNat % 16 * 4 + third.toNat / 64, third.toNat % 64], value < 64 := by
    simp
    omega
  refine (decodeLast_symbols offset bounded (Nat.le_add_left 2 2) 0).trans ?_
  unfold finish
  rw [filterMap_value?_symbols bounded]
  simp only [List.map_cons, List.map_nil, group_encode]

theorem decodeGroups_encode_cons {rest padding : Bytes} (more : rest ≠ []) :
    decodeGroups .indifferent offset
      (encode (first :: second :: third :: rest) ++ padding) =
      (decodeGroups .indifferent (offset + 4) (encode rest ++ padding)).map
        (first :: second :: third :: ·) := by
  have bounds := And.intro (toNat_lt first) (And.intro (toNat_lt second) (toNat_lt third))
  have filled : encode rest ≠ [] := fun nothing => more (encode_eq_nil_iff.1 nothing)
  rcases List.exists_cons_of_ne_nil filled with ⟨next, others, written⟩
  simp only [encode, written, List.cons_append]
  rw [decodeGroups, valueAt_symbol (by omega), valueAt_symbol (by omega),
    valueAt_symbol (by omega), valueAt_symbol (by omega)]
  cases decodeGroups .indifferent (offset + 4) (next :: (others ++ padding)) with
  | error fault => rfl
  | ok remaining =>
      exact congrArg (fun front => Except.ok (front ++ remaining))
        (group_encode first second third)

end Full

/-! Padding may fill the last group, and no more than that. -/

/-- The number of padding symbols that fill the last group of a text. -/
def vacancy (text : Bytes) : Nat :=
  (4 - text.length % 4) % 4

theorem vacancy_append (group text : Bytes) (full : group.length = 4) :
    vacancy (group ++ text) = vacancy text := by
  rw [vacancy, vacancy, List.length_append, full, Nat.add_mod_left]

theorem decodeGroups_of_short (policy : Padding) (offset : Nat) {last : Bytes}
    (short : last.length ≤ 4) :
    decodeGroups policy offset last = decodeLast policy offset last := by
  unfold decodeGroups
  split
  · simp only [List.length_cons] at short
    omega
  · rfl

private theorem decodeGroups_encode (offset : Nat) (content : Bytes) {count : Nat}
    (fits : count ≤ vacancy (encode content)) :
    decodeGroups .indifferent offset (encode content ++ List.replicate count pad) =
      .ok content := by
  induction content using encode.induct generalizing offset with
  | case1 first second third rest induction =>
      have fits : count ≤ vacancy (encode rest) :=
        Nat.le_trans fits (Nat.le_of_eq (vacancy_append [_, _, _, _] (encode rest) rfl))
      by_cases last : rest = []
      · subst last
        cases Nat.le_zero.1 fits
        exact decodeLast_encode_three offset first second third
      · rw [decodeGroups_encode_cons offset first second third last, induction _ fits]
        rfl
  | case2 first second =>
      have fits : count ≤ 1 := fits
      rw [decodeGroups_of_short _ _ (by simp [encode]; omega)]
      exact decodeLast_encode_two offset first second count
  | case3 first =>
      have fits : count ≤ 2 := fits
      rw [decodeGroups_of_short _ _ (by simp [encode]; omega)]
      exact decodeLast_encode_one offset first count
  | case4 =>
      cases Nat.le_zero.1 fits
      rfl

theorem decode_padded (content : Bytes) {count : Nat}
    (fits : count ≤ vacancy (encode content)) :
    decode .indifferent (encode content ++ List.replicate count pad) = .ok content := by
  unfold decode
  split
  · rename_i last found
    have read := decodeGroups_encode 0 content fits
    rcases List.mem_append.1 (List.mem_of_getLast? found) with written | padding
    · rcases mem_encode written with ⟨value, bounded, rfl⟩
      have readable : value? (symbol value) ≠ none := by simp [value?_symbol bounded]
      exact (if_neg fun rejected => readable rejected.2.2).trans read
    · have same := List.eq_of_mem_replicate padding
      exact (if_neg fun rejected => rejected.2.1 same).trans read
  · rename_i nothing
    have empty := (List.append_eq_nil_iff.1 (List.getLast?_eq_none_iff.1 nothing)).1
    rw [encode_eq_nil_iff.1 empty]

theorem decode_encode (content : Bytes) :
    decode .indifferent (encode content) = .ok content := by
  simpa using decode_padded content (Nat.zero_le _)

end Gateway.Base64
