import Gateway.Proofs.Text
import Mathlib.Algebra.Group.Nat.Defs
import Mathlib.Tactic.SplitIfs

namespace Gateway.Text

/-! Texts are in the same order by their characters and by the bytes that they are written
as. A character is written as a first byte, which tells how many follow, and as digits to
the base 64 in the bytes that follow. -/

def trailing (code : Nat) : Nat :=
  if code ≤ 0x7f then 0 else if code ≤ 0x7ff then 1 else if code ≤ 0xffff then 2 else 3

def mark : Nat → Nat
  | 0 => 0
  | 1 => 0xc0
  | 2 => 0xe0
  | _ => 0xf0

/-- A number in digits to the base 64, the first of which bears a mark. -/
def spelled (mark : Nat) : (count : Nat) → (code : Nat) → Bytes
  | 0, code => [UInt8.ofNat (code + mark)]
  | count + 1, code => spelled mark count (code / 64) ++ [UInt8.ofNat (code % 64 + 0x80)]

private theorem utf8EncodeChar_eq_spelled (character : Char) :
    String.utf8EncodeChar character =
      spelled (mark (trailing character.val.toNat)) (trailing character.val.toNat)
        character.val.toNat := by
  have bound : character.val.toNat < 0x110000 := by
    rcases character.valid with low | ⟨-, high⟩
    · exact Nat.lt_trans low (by decide)
    · exact high
  unfold String.utf8EncodeChar trailing
  dsimp only
  split_ifs
  · rfl
  · simp only [spelled, mark]
    rw [Nat.mod_eq_of_lt (by omega : character.val.toNat / 64 < 0x20)]
    rfl
  · simp only [spelled, mark, Nat.div_div_eq_div_mul]
    rw [Nat.mod_eq_of_lt (by omega : character.val.toNat / 4096 < 0x10)]
    rfl
  · simp only [spelled, mark, Nat.div_div_eq_div_mul]
    rw [Nat.mod_eq_of_lt (by omega : character.val.toNat / 262144 < 0x08)]
    rfl

private theorem spelled_eq_cons (mark count code : Nat) :
    ∃ rest, spelled mark count code = UInt8.ofNat (code / 64 ^ count + mark) :: rest := by
  induction count generalizing code with
  | zero => exact ⟨[], by rw [Nat.pow_zero, Nat.div_one, spelled]⟩
  | succ count induction =>
      rcases induction (code / 64) with ⟨rest, same⟩
      refine ⟨rest ++ [UInt8.ofNat (code % 64 + 0x80)], ?_⟩
      rw [spelled, same, Nat.div_div_eq_div_mul, Nat.pow_succ', List.cons_append]

private theorem ofNat_lt_ofNat {left right : Nat} (less : left < right)
    (bound : right < 256) :
    UInt8.ofNat left < UInt8.ofNat right := by
  rw [UInt8.lt_iff_toNat_lt, UInt8.toNat_ofNat', UInt8.toNat_ofNat']
  omega

/-- Of two numbers with as many digits the lesser one has the lesser digit where they
first differ. -/
theorem spelled_append_lt {mark count left right : Nat} (less : left < right)
    (bound : right / 64 ^ count + mark < 256) (rest others : Bytes) :
    spelled mark count left ++ rest < spelled mark count right ++ others := by
  induction count generalizing left right rest others with
  | zero =>
      rw [Nat.pow_zero, Nat.div_one] at bound
      exact List.cons_lt_cons_iff.2
        (.inl (ofNat_lt_ofNat (Nat.add_lt_add_right less mark) bound))
  | succ count induction =>
      have bound : right / 64 / 64 ^ count + mark < 256 := by
        rwa [Nat.div_div_eq_div_mul, ← Nat.pow_succ']
      rw [spelled, spelled, List.append_assoc, List.append_assoc]
      by_cases earlier : left / 64 < right / 64
      · exact induction earlier bound _ _
      · have same : left / 64 = right / 64 := by omega
        have last : UInt8.ofNat (left % 64 + 0x80) < UInt8.ofNat (right % 64 + 0x80) :=
          ofNat_lt_ofNat (by omega) (by omega)
        rw [same]
        exact List.append_left_lt (List.cons_lt_cons_iff.2 (.inl last))

private theorem trailing_mono {left right : Nat} (less : left < right) :
    trailing left ≤ trailing right := by
  unfold trailing
  split_ifs <;> omega

theorem first_lt {left right : Nat} (more : trailing left < trailing right) :
    left / 64 ^ trailing left + mark (trailing left) <
      right / 64 ^ trailing right + mark (trailing right) := by
  unfold trailing at *
  split_ifs at * <;> simp only [mark] <;> omega

private theorem first_bound {code : Nat} (bound : code < 0x110000) :
    code / 64 ^ trailing code + mark (trailing code) < 256 := by
  unfold trailing
  split_ifs <;> simp only [mark] <;> omega

private theorem utf8EncodeChar_append_lt {left right : Char} (less : left < right)
    (rest others : Bytes) :
    String.utf8EncodeChar left ++ rest < String.utf8EncodeChar right ++ others := by
  have codes : left.val.toNat < right.val.toNat := UInt32.lt_iff_toNat_lt.1 less
  have bound : right.val.toNat < 0x110000 := by
    rcases right.valid with low | ⟨-, high⟩
    · exact Nat.lt_trans low (by decide)
    · exact high
  rw [utf8EncodeChar_eq_spelled, utf8EncodeChar_eq_spelled]
  rcases Nat.lt_or_eq_of_le (trailing_mono codes) with more | same
  · rcases spelled_eq_cons (mark (trailing left.val.toNat)) (trailing left.val.toNat)
      left.val.toNat with ⟨leftRest, leftSplit⟩
    rcases spelled_eq_cons (mark (trailing right.val.toNat)) (trailing right.val.toNat)
      right.val.toNat with ⟨rightRest, rightSplit⟩
    rw [leftSplit, rightSplit]
    exact List.cons_lt_cons_iff.2
      (.inl (ofNat_lt_ofNat (first_lt more) (first_bound bound)))
  · rw [same]
    exact spelled_append_lt codes (first_bound bound) rest others

private theorem flatMap_utf8EncodeChar_lt {left right : List Char} (less : left < right) :
    left.flatMap String.utf8EncodeChar < right.flatMap String.utf8EncodeChar := by
  induction left generalizing right with
  | nil =>
      cases right with
      | nil => cases less
      | cons character rest =>
          rcases spelled_eq_cons (mark (trailing character.val.toNat))
            (trailing character.val.toNat) character.val.toNat with ⟨others, split⟩
          rw [List.flatMap_cons, utf8EncodeChar_eq_spelled, split]
          exact List.nil_lt_cons _ _
  | cons character rest induction =>
      cases right with
      | nil => cases less
      | cons other others =>
          rw [List.flatMap_cons, List.flatMap_cons]
          rcases List.cons_lt_cons_iff.1 less with earlier | ⟨same, later⟩
          · exact utf8EncodeChar_append_lt earlier _ _
          · rw [same]
            exact List.append_left_lt (induction later)

private theorem bytes_lt_of_lt {left right : String} (less : left < right) :
    bytes left < bytes right := by
  rw [← String.ofList_toList (s := left), ← String.ofList_toList (s := right),
    bytes_ofList, bytes_ofList]
  exact flatMap_utf8EncodeChar_lt less

theorem bytes_le_iff {left right : String} : bytes left ≤ bytes right ↔ left ≤ right := by
  constructor
  · intro less
    refine String.not_lt.1 fun greater => ?_
    exact List.not_lt.2 less (bytes_lt_of_lt greater)
  · intro less greater
    by_cases same : left = right
    · rw [same] at greater
      exact List.lt_irrefl _ greater
    · have before : left < right :=
        String.not_le.1 fun back => same (String.le_antisymm less back)
      exact List.lt_asymm (bytes_lt_of_lt before) greater

end Gateway.Text
