import Gateway.Proofs.Base64
import Gateway.Proofs.Traced
import Mathlib.Tactic.SplitIfs

namespace Gateway.Base64

/-! Nothing is read but what was written. A text that is read without a fault is the
written form of what was read, followed by padding that fills no more than the last
group. -/

private theorem of_value? {byte : UInt8} {value : Nat} (read : value? byte = some value) :
    value < 64 ∧ symbol value = byte := by
  have bound := toNat_lt byte
  have restored (code : Nat) (same : code = byte.toNat) : UInt8.ofNat code = byte :=
    ofNat_of_eq same
  unfold value? at read
  dsimp only at read
  split_ifs at read with upper lower digit plus slash <;> cases read
  · exact ⟨by omega, (if_pos (by omega)).trans (restored _ (by omega))⟩
  · refine ⟨by omega,
      (if_neg (by omega)).trans ((if_pos (by omega)).trans (restored _ ?_))⟩
    omega
  · refine ⟨by omega, (if_neg (by omega)).trans ((if_neg (by omega)).trans
      ((if_pos (by omega)).trans (restored _ ?_)))⟩
    omega
  · exact ⟨by omega, restored 43 plus.symm⟩
  · exact ⟨by omega, restored 47 slash.symm⟩

private theorem of_valueAt {byte : UInt8} {offset value : Nat}
    (read : valueAt byte offset = .ok value) :
    value < 64 ∧ symbol value = byte := by
  unfold valueAt at read
  split at read
  · rename_i found
    cases read
    exact of_value? found
  · cases read

theorem of_readLast {offset padding count : Nat} {symbols content read : Bytes}
    (result : readLast offset symbols padding content = .ok (read, count)) :
    ∃ values taken, (∀ value ∈ values, value < 64) ∧
      content = values.map symbol ++ List.replicate taken pad ∧
      read = symbols ++ values.map symbol ∧ (0 < padding → values = []) := by
  induction content generalizing symbols padding with
  | nil =>
      cases result
      exact ⟨[], 0, nofun, rfl, (List.append_nil _).symm, fun _ => rfl⟩
  | cons byte rest induction =>
      unfold readLast at result
      dsimp only at result
      split_ifs at result with padded early after
      · rcases induction result with ⟨values, taken, bounded, same, reads, none⟩
        cases none (Nat.succ_pos padding)
        refine ⟨[], taken + 1, nofun, ?_, reads, fun _ => rfl⟩
        rw [same, padded]
        rfl
      · split at result
        · cases result
        · rename_i value found
          rcases of_value? found with ⟨small, same⟩
          rcases induction result with ⟨values, taken, bounded, rest, reads, -⟩
          refine ⟨value :: values, taken, List.forall_mem_cons.2 ⟨small, bounded⟩, ?_, ?_,
            fun positive => absurd positive after⟩
          · rw [rest, List.map_cons, same]
            rfl
          · rw [reads, List.map_cons, same, List.append_assoc]
            rfl

private theorem toNat_ofNat_of_byte {code : Nat} (small : code < 256) :
    (UInt8.ofNat code).toNat = code := by
  simpa using small

theorem encode_group {first second third fourth : Nat} (rest : Bytes)
    (bounded : ∀ value ∈ [first, second, third, fourth], value < 64) :
    encode (group first second third fourth ++ rest) =
      [first, second, third, fourth].map symbol ++ encode rest := by
  have bounds : first < 64 ∧ second < 64 ∧ third < 64 ∧ fourth < 64 := by
    simpa using bounded
  have front : (first * 4 + second / 16) / 4 = first := by omega
  have middle : (first * 4 + second / 16) % 4 * 16 + (second % 16 * 16 + third / 4) / 16 =
      second := by
    omega
  have back : (second % 16 * 16 + third / 4) % 16 * 4 + (third % 4 * 64 + fourth) / 64 =
      third := by
    omega
  have last : (third % 4 * 64 + fourth) % 64 = fourth := by omega
  simp only [group, List.cons_append, List.nil_append]
  rw [encode, toNat_ofNat_of_byte (by omega), toNat_ofNat_of_byte (by omega),
    toNat_ofNat_of_byte (by omega), front, middle, back, last]
  rfl

theorem encode_of_finish {offset : Nat} {values : List Nat} {content : Bytes}
    (bounded : ∀ value ∈ values, value < 64)
    (result : finish offset (values.map symbol) = .ok content) :
    encode content = values.map symbol := by
  unfold finish at result
  rw [filterMap_value?_symbols bounded] at result
  match values with
  | [] | [_] => cases result
  | [first, second] =>
      have bounds := And.intro (bounded first (by simp)) (bounded second (by simp))
      simp only [List.map_cons, List.map_nil] at result
      split_ifs at result with aligned
      cases result
      have front : (first * 4 + second / 16) / 4 = first := by omega
      have back : (first * 4 + second / 16) % 4 * 16 = second := by omega
      rw [encode, toNat_ofNat_of_byte (by omega), front, back]
      rfl
  | [first, second, third] =>
      have bounds := And.intro (bounded first (by simp))
        (And.intro (bounded second (by simp)) (bounded third (by simp)))
      simp only [List.map_cons, List.map_nil] at result
      split_ifs at result with aligned
      cases result
      have front : (first * 4 + second / 16) / 4 = first := by omega
      have middle :
          (first * 4 + second / 16) % 4 * 16 + (second % 16 * 16 + third / 4) / 16 =
            second := by
        omega
      have back : (second % 16 * 16 + third / 4) % 16 * 4 = third := by omega
      rw [encode, toNat_ofNat_of_byte (by omega), toNat_ofNat_of_byte (by omega), front,
        middle, back]
      rfl
  | [first, second, third, fourth] =>
      cases result
      simpa [encode] using encode_group [] bounded
  | _ :: _ :: _ :: _ :: _ :: _ => cases result

/-- A text that is a content's written form, with padding that fills no more than the last
group. -/
def Spells (text content : Bytes) : Prop :=
  ∃ count,
    count ≤ vacancy (encode content) ∧ text = encode content ++ List.replicate count pad

private theorem spells_of_decodeLast {offset : Nat} {last content : Bytes}
    (short : last.length ≤ 4)
    (result : decodeLast .indifferent offset last = .ok content) :
    Spells last content := by
  unfold decodeLast at result
  split at result
  · rename_i empty
    cases result
    exact ⟨0, Nat.zero_le _, List.isEmpty_iff.1 empty⟩
  · rcases bind_eq_ok.1 result with ⟨⟨symbols, padding⟩, read, result⟩
    rcases of_readLast read with ⟨values, taken, bounded, rfl, rfl, -⟩
    rw [List.nil_append] at result
    dsimp only at result
    split_ifs at result with few
    have written := encode_of_finish bounded result
    rw [List.length_map] at few
    simp only [List.length_append, List.length_map, List.length_replicate] at short
    refine ⟨taken, ?_, by rw [written]⟩
    rw [written, vacancy, List.length_map]
    omega

private theorem spells_of_decodeGroups {offset : Nat} {text content : Bytes}
    (result : decodeGroups .indifferent offset text = .ok content) :
    Spells text content := by
  induction offset, text using decodeGroups.induct generalizing content with
  | case1 offset first second third fourth next rest induction =>
      simp only [decodeGroups, bind_eq_ok] at result
      rcases result with
        ⟨a, readFirst, b, readSecond, c, readThird, d, readFourth, remaining,
        readRest, result⟩
      cases result
      rcases induction readRest with ⟨count, fits, same⟩
      have values := And.intro (of_valueAt readFirst) (And.intro (of_valueAt readSecond)
        (And.intro (of_valueAt readThird) (of_valueAt readFourth)))
      have written : encode (group a b c d ++ remaining) = [a, b, c, d].map symbol ++ _ :=
        encode_group remaining (by simp [values])
      refine ⟨count, ?_, ?_⟩
      · rw [written, vacancy_append _ _ (List.length_map symbol)]
        exact fits
      · rw [written, same]
        simp [values]
  | case2 offset last unfilled =>
      have short : last.length ≤ 4 := by
        rcases last with
          _ | ⟨first, _ | ⟨second, _ | ⟨third, _ | ⟨fourth, _ | ⟨next, rest⟩⟩⟩⟩⟩
        case cons.cons.cons.cons.cons => exact (unfilled _ _ _ _ _ _ rfl).elim
        all_goals simp
      rw [decodeGroups_of_short _ _ short] at result
      exact spells_of_decodeLast short result

/-- A text is read as a content if it is the content's written form, with or without the
padding that fills the last group, and only then. -/
theorem decode_eq_ok_iff {text content : Bytes} :
    decode .indifferent text = .ok content ↔ Spells text content := by
  constructor
  · intro result
    unfold decode at result
    split at result
    · split_ifs at result
      exact spells_of_decodeGroups result
    · rename_i nothing
      cases result
      exact ⟨0, Nat.zero_le _, List.getLast?_eq_none_iff.1 nothing⟩
  · rintro ⟨count, fits, rfl⟩
    exact decode_padded content fits

end Gateway.Base64
