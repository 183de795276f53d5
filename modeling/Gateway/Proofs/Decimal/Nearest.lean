import Gateway.Decimal.Rounded
import Mathlib

namespace Gateway.Decimal

/-! What it is to be the nearest number in binary64, told by distances. All numbers are
counted in units of the least positive one, which is 2 ^ -1074. The pattern of infinity
stands for 2 ^ 1024 among them, so that what is too large is nearest to infinity. -/

/-- The number that a pattern without a sign stands for. -/
def units (bits : Nat) : Nat :=
  if bits / 2 ^ 52 = 0 then bits % 2 ^ 52
  else (2 ^ 52 + bits % 2 ^ 52) * 2 ^ (bits / 2 ^ 52 - 1)

def distance (number : ℚ) (bits : Nat) : ℚ :=
  |units bits - number|

/-- A pattern of the number in binary64 that is nearest to a given one, and of an even one
if two are equally near. -/
structure Nearest (number : ℚ) (bits : Nat) : Prop where
  bounded : bits ≤ 0x7ff0000000000000
  nearest : ∀ other ≤ 0x7ff0000000000000, distance number bits ≤ distance number other
  even : ∀ other ≤ 0x7ff0000000000000, other ≠ bits →
    distance number bits = distance number other → Even bits

/-! Patterns in order stand for numbers in order. -/

private theorem units_add {shift significand : Nat}
    (normal : shift = 0 ∨ 2 ^ 52 ≤ significand) (bounded : significand ≤ 2 ^ 53) :
    units (shift * 2 ^ 52 + significand) = significand * 2 ^ shift := by
  rcases Nat.eq_or_lt_of_le bounded with rfl | bounded
  · have field : (shift * 2 ^ 52 + 2 ^ 53) / 2 ^ 52 = shift + 2 := by omega
    have fraction : (shift * 2 ^ 52 + 2 ^ 53) % 2 ^ 52 = 0 := by omega
    rw [units, field, fraction, if_neg (by omega), Nat.add_zero]
    have power : shift + 2 - 1 = shift + 1 := by omega
    rw [power, Nat.pow_succ]
    ring
  · by_cases low : significand < 2 ^ 52
    · have subnormal : shift = 0 := normal.resolve_right (Nat.not_le.2 low)
      subst subnormal
      have field : (0 * 2 ^ 52 + significand) / 2 ^ 52 = 0 := by omega
      rw [units, if_pos field]
      omega
    · have field : (shift * 2 ^ 52 + significand) / 2 ^ 52 = shift + 1 := by omega
      have fraction : (shift * 2 ^ 52 + significand) % 2 ^ 52 = significand - 2 ^ 52 := by
        omega
      have whole : 2 ^ 52 + (significand - 2 ^ 52) = significand := by omega
      rw [units, field, fraction, if_neg (by omega), whole, Nat.add_sub_cancel]

private theorem exists_shift (bits : Nat) :
    ∃ shift significand, bits = shift * 2 ^ 52 + significand ∧ significand < 2 ^ 53 ∧
      (shift = 0 ∨ 2 ^ 52 ≤ significand) ∧ units bits = significand * 2 ^ shift := by
  have split : ∃ shift significand, bits = shift * 2 ^ 52 + significand ∧
      significand < 2 ^ 53 ∧ (shift = 0 ∨ 2 ^ 52 ≤ significand) := by
    by_cases low : bits < 2 ^ 52
    · exact ⟨0, bits, by omega, by omega, .inl rfl⟩
    · exact ⟨bits / 2 ^ 52 - 1, 2 ^ 52 + bits % 2 ^ 52, by omega, by omega,
        .inr (Nat.le_add_right _ _)⟩
  rcases split with ⟨shift, significand, rfl, bounded, normal⟩
  exact ⟨shift, significand, rfl, bounded, normal,
    units_add normal (Nat.le_of_lt bounded)⟩

theorem shifted_lt {low high significand : Nat} (bounded : significand < 2 ^ 53)
    (below : low < high) : significand * 2 ^ low < 2 ^ 52 * 2 ^ high := by
  have power : 2 ^ (low + 1) ≤ 2 ^ high := Nat.pow_le_pow_right (by decide) below
  calc significand * 2 ^ low < 2 ^ 53 * 2 ^ low :=
        Nat.mul_lt_mul_of_pos_right bounded (Nat.two_pow_pos low)
    _ = 2 ^ 52 * 2 ^ (low + 1) := by ring
    _ ≤ 2 ^ 52 * 2 ^ high := Nat.mul_le_mul_left _ power

private theorem units_strictMono : StrictMono units := by
  intro bits other order
  rcases exists_shift bits with ⟨shift, significand, rfl, bounded, alsoNormal, same⟩
  rcases exists_shift other with ⟨later, larger, rfl, alsoBounded, normal, alsoSame⟩
  rw [same, alsoSame]
  rcases Nat.lt_trichotomy shift later with below | rfl | above
  · have least : 2 ^ 52 ≤ larger := normal.resolve_left (Nat.ne_zero_of_lt below)
    exact (shifted_lt bounded below).trans_le (Nat.mul_le_mul_right _ least)
  · exact Nat.mul_lt_mul_of_pos_right (by omega) (Nat.two_pow_pos shift)
  · omega

/-- There is only one such pattern: of two that are equally near and even, another one
would stand in between. -/
theorem Nearest.unique {number : ℚ} {bits other : Nat} (first : Nearest number bits)
    (second : Nearest number other) : bits = other := by
  wlog order : bits ≤ other generalizing bits other
  · exact (this second first (Nat.le_of_not_le order)).symm
  by_contra different
  have same := le_antisymm (first.nearest other second.bounded)
    (second.nearest bits first.bounded)
  have even := first.even other second.bounded (Ne.symm different) same
  have alsoEven := second.even bits first.bounded different same.symm
  have between : bits + 1 < other := by
    rcases even with ⟨half, rfl⟩
    rcases alsoEven with ⟨otherHalf, rfl⟩
    omega
  have nearer := first.nearest (bits + 1) (by have := second.bounded; omega)
  have low : (units bits : ℚ) < units (bits + 1) :=
    Nat.cast_lt.2 (units_strictMono (Nat.lt_succ_self bits))
  have high : (units (bits + 1) : ℚ) < units other :=
    Nat.cast_lt.2 (units_strictMono between)
  -- The number is in the middle of the two, so the one in between is nearer.
  have middle : (units bits : ℚ) + units other = 2 * number := by
    rcases abs_eq_abs.1 same with equal | opposite
    · linarith
    · linarith
  have farther : distance number (bits + 1) < distance number bits := by
    have below : (units bits : ℚ) - number < 0 := by linarith
    rw [distance, distance, abs_of_neg below, abs_lt]
    constructor <;> linarith
  exact absurd nearer (not_le.2 farther)

/-! A number on the grid of some unit. -/

section Grid

variable {number : ℚ} {shift significand : Nat}
  (normal : shift = 0 ∨ (2 : ℚ) ^ 52 * 2 ^ shift ≤ number)
  (near : |(significand : ℚ) * 2 ^ shift - number| ≤ 2 ^ shift / 2)

include near

theorem grid_le {other : Nat} (different : other ≠ significand) :
    2 ^ shift / 2 ≤ |(other : ℚ) * 2 ^ shift - number| := by
  have unit : (0 : ℚ) < 2 ^ shift := by positivity
  rcases abs_le.1 near with ⟨above, below⟩
  rcases Nat.lt_or_gt_of_ne different with less | more
  · have apart : (other : ℚ) + 1 ≤ significand := by exact_mod_cast less
    have steps := mul_le_mul_of_nonneg_right apart unit.le
    rw [add_mul, one_mul] at steps
    refine le_trans ?_ (neg_le_abs _)
    linarith
  · have apart : (significand : ℚ) + 1 ≤ other := by exact_mod_cast more
    have steps := mul_le_mul_of_nonneg_right apart unit.le
    rw [add_mul, one_mul] at steps
    refine le_trans ?_ (le_abs_self _)
    linarith

include normal

theorem grid_lt {other : Nat} (below : (other : ℚ) < 2 ^ 52 * 2 ^ shift)
    (positive : shift ≠ 0) :
    |(significand : ℚ) * 2 ^ shift - number| < |(other : ℚ) - number| := by
  have above := normal.resolve_left positive
  have least : |(significand : ℚ) * 2 ^ shift - number| ≤
      |((2 ^ 52 : Nat) : ℚ) * 2 ^ shift - number| := by
    by_cases same : 2 ^ 52 = significand
    · rw [same]
    · exact near.trans (grid_le near same)
  refine least.trans_lt ?_
  push_cast
  rw [abs_of_nonpos (by linarith), abs_of_nonpos (by linarith)]
  linarith

private theorem significand_bounds (below : number < 2 ^ 53 * 2 ^ shift) :
    significand ≤ 2 ^ 53 ∧ (shift = 0 ∨ 2 ^ 52 ≤ significand) := by
  have unit : (0 : ℚ) < 2 ^ shift := by positivity
  rcases abs_le.1 near with ⟨lower, upper⟩
  refine ⟨?_, normal.imp_right fun least => ?_⟩
  · by_contra larger
    have more : (2 : ℚ) ^ 53 + 1 ≤ significand := by exact_mod_cast not_le.1 larger
    have scaled := mul_le_mul_of_nonneg_right more unit.le
    linarith
  · by_contra smaller
    have less : (significand : ℚ) + 1 ≤ 2 ^ 52 := by exact_mod_cast not_le.1 smaller
    have scaled := mul_le_mul_of_nonneg_right less unit.le
    linarith

private theorem nearest_of_grid (bounded : significand ≤ 2 ^ 53)
    (whole : shift = 0 ∨ 2 ^ 52 ≤ significand)
    (finite : shift * 2 ^ 52 + significand ≤ 0x7ff0000000000000)
    (even : |(significand : ℚ) * 2 ^ shift - number| = 2 ^ shift / 2 →
      Even significand) :
    Nearest number (shift * 2 ^ 52 + significand) := by
  have own : distance number (shift * 2 ^ 52 + significand) =
      |(significand : ℚ) * 2 ^ shift - number| := by
    rw [distance, units_add whole bounded]
    push_cast
    rfl
  have others : ∀ other, other ≠ shift * 2 ^ 52 + significand →
      |(significand : ℚ) * 2 ^ shift - number| ≤ distance number other ∧
        (|(significand : ℚ) * 2 ^ shift - number| = distance number other →
          |(significand : ℚ) * 2 ^ shift - number| = 2 ^ shift / 2) := by
    intro other different
    rcases exists_shift other with ⟨later, larger, split, size, -, same⟩
    rcases Nat.lt_or_ge later shift with below | above
    · have less : (units other : ℚ) < 2 ^ 52 * 2 ^ shift := by
        rw [same]
        exact_mod_cast shifted_lt size below
      have farther := grid_lt normal near less (Nat.ne_zero_of_lt below)
      exact ⟨farther.le, fun equal => absurd equal farther.ne⟩
    · have multiple : units other = larger * 2 ^ (later - shift) * 2 ^ shift := by
        rw [same, Nat.mul_assoc, ← Nat.pow_add, Nat.sub_add_cancel above]
      have unequal : larger * 2 ^ (later - shift) ≠ significand := by
        intro equal
        rw [equal, ← units_add whole bounded] at multiple
        exact different (units_strictMono.injective multiple)
      have apart := grid_le near unequal
      have distant : distance number other =
          |((larger * 2 ^ (later - shift) : Nat) : ℚ) * 2 ^ shift - number| := by
        rw [distance, multiple]
        push_cast
        rfl
      rw [distant]
      exact ⟨near.trans apart, fun equal => le_antisymm near (equal ▸ apart)⟩
  refine ⟨finite, fun other _ => ?_, fun other _ different equal => ?_⟩
  · by_cases here : other = shift * 2 ^ 52 + significand
    · rw [here]
    · rw [own]
      exact (others other here).1
  · rw [own] at equal
    have halfway := even ((others other different).2 equal)
    exact Nat.even_add.2 (iff_of_true (Nat.even_mul.2 (.inr (by decide))) halfway)

end Grid

theorem nearest_infinity {number : ℚ} (own : (units infinity : ℚ) ≤ number) :
    Nearest number infinity := by
  have below : ∀ other ≤ infinity, (units other : ℚ) ≤ units infinity :=
    fun other bounded => Nat.cast_le.2 (units_strictMono.monotone bounded)
  have apart : ∀ other ≤ infinity, distance number other = number - units other := by
    intro other bounded
    rw [distance, abs_of_nonpos (sub_nonpos.2 ((below other bounded).trans own)), neg_sub]
  refine ⟨le_rfl, fun other bounded => ?_, fun other bounded different equal => ?_⟩
  · rw [apart infinity le_rfl, apart other bounded]
    exact sub_le_sub_left (below other bounded) number
  · exact ⟨infinity / 2, by decide⟩

/-! Rounding of a fraction. -/

theorem divideToEven_near (numerator : Nat) {denominator : Nat}
    (positive : 0 < denominator) :
    |(divideToEven numerator denominator : ℚ) - numerator / denominator| ≤ 1 / 2 ∧
      (|(divideToEven numerator denominator : ℚ) - numerator / denominator| = 1 / 2 →
        Even (divideToEven numerator denominator)) := by
  have size : (0 : ℚ) < denominator := by exact_mod_cast positive
  have whole : (numerator : ℚ) / denominator =
      (numerator / denominator : Nat) + (numerator % denominator : Nat) /
        denominator := by
    rw [eq_comm, add_div' _ _ _ size.ne', div_left_inj' size.ne']
    exact_mod_cast Nat.div_add_mod' numerator denominator
  have rest : (0 : ℚ) ≤ (numerator % denominator : Nat) / denominator := by positivity
  rw [whole]
  unfold divideToEven
  dsimp only
  split
  · rename_i less
    have small : ((numerator % denominator : Nat) : ℚ) / denominator < 1 / 2 := by
      rw [div_lt_div_iff₀ size two_pos, one_mul, mul_comm]
      exact_mod_cast less
    rw [sub_add_cancel_left, abs_neg, abs_of_nonneg rest]
    exact ⟨small.le, fun equal => absurd equal small.ne⟩
  · split
    · rename_i more
      have large : (1 : ℚ) / 2 < (numerator % denominator : Nat) / denominator := by
        rw [div_lt_div_iff₀ two_pos size, one_mul, mul_comm _ (2 : ℚ)]
        exact_mod_cast more
      have less : ((numerator % denominator : Nat) : ℚ) / denominator < 1 := by
        rw [div_lt_one size]
        exact_mod_cast Nat.mod_lt numerator positive
      push_cast at large less ⊢
      rw [add_sub_add_left_eq_sub, abs_of_pos (by linarith)]
      exact ⟨by linarith, fun equal => by linarith⟩
    · rename_i least most
      have half : ((numerator % denominator : Nat) : ℚ) / denominator = 1 / 2 := by
        rw [div_eq_div_iff size.ne' two_ne_zero, one_mul, mul_comm]
        exact_mod_cast Nat.le_antisymm (Nat.not_lt.1 most) (Nat.not_lt.1 least)
      rw [half]
      push_cast
      rw [add_sub_add_left_eq_sub]
      refine ⟨?_, fun _ => Nat.even_iff.2 (by omega)⟩
      rcases Nat.mod_two_eq_zero_or_one (numerator / denominator) with even | odd
      · rw [even]
        norm_num
      · rw [odd]
        norm_num

private theorem units_infinity : units infinity = 2 ^ 52 * 2 ^ 2046 := by
  have split : infinity = 2046 * 2 ^ 52 + 2 ^ 52 := by decide
  rw [split, units_add (.inr le_rfl) (by decide)]

private theorem units_infinity_le {shift : Nat} (large : 2046 ≤ shift) :
    (units infinity : ℚ) ≤ 2 ^ 52 * 2 ^ shift := by
  rw [units_infinity, Nat.cast_mul, Nat.cast_pow, Nat.cast_pow, Nat.cast_ofNat]
  exact mul_le_mul_of_nonneg_left (pow_le_pow_right₀ one_le_two large) (by positivity)

/-- What `binaryExponent` compares: whether a power of two is no more than a fraction. -/
private theorem reaches_iff (numerator : Nat) {denominator : Nat}
    (positive : 0 < denominator) (power : Int) :
    (if 0 ≤ power then denominator <<< power.toNat ≤ numerator
      else denominator ≤ numerator <<< (-power).toNat) ↔
        (2 : ℚ) ^ power ≤ numerator / denominator := by
  have size : (0 : ℚ) < denominator := by exact_mod_cast positive
  rw [le_div_iff₀ size]
  split
  · rename_i up
    obtain ⟨steps, same⟩ := Int.eq_ofNat_of_zero_le up
    rw [same, Int.toNat_natCast, Nat.shiftLeft_eq, zpow_natCast, mul_comm]
    exact_mod_cast Iff.rfl
  · rename_i down
    obtain ⟨steps, same⟩ := Int.eq_ofNat_of_zero_le (by omega : 0 ≤ -power)
    rw [same, Int.toNat_natCast, Nat.shiftLeft_eq, ← neg_neg power, same, zpow_neg,
      zpow_natCast, inv_mul_le_iff₀ (by positivity), mul_comm (2 ^ steps : ℚ)]
    exact_mod_cast Iff.rfl

private theorem log2_bounds {numerator denominator : Nat} (some : numerator ≠ 0)
    (positive : denominator ≠ 0) :
    let guess : Int := numerator.log2 - denominator.log2
    (2 : ℚ) ^ (guess - 1) ≤ numerator / denominator ∧
      (numerator : ℚ) / denominator < 2 ^ (guess + 1) := by
  intro guess
  have size : (0 : ℚ) < denominator := by exact_mod_cast Nat.pos_of_ne_zero positive
  rw [le_div_iff₀ size, div_lt_iff₀ size]
  constructor
  · have least : (2 : ℚ) ^ numerator.log2 ≤ numerator := by
      exact_mod_cast Nat.log2_self_le some
    have above : (denominator : ℚ) < 2 ^ (denominator.log2 + 1) := by
      exact_mod_cast Nat.lt_log2_self
    have power :
        (2 : ℚ) ^ (guess - 1) * 2 ^ (denominator.log2 + 1) = 2 ^ numerator.log2 := by
      rw [← zpow_natCast, ← zpow_natCast, ← zpow_add₀ two_ne_zero]
      congr 1
      omega
    calc (2 : ℚ) ^ (guess - 1) * denominator
        ≤ 2 ^ (guess - 1) * 2 ^ (denominator.log2 + 1) :=
          mul_le_mul_of_nonneg_left above.le (by positivity)
      _ = 2 ^ numerator.log2 := power
      _ ≤ numerator := least
  · have most : (numerator : ℚ) < 2 ^ (numerator.log2 + 1) := by
      exact_mod_cast Nat.lt_log2_self
    have below : (2 : ℚ) ^ denominator.log2 ≤ denominator := by
      exact_mod_cast Nat.log2_self_le positive
    have power :
        (2 : ℚ) ^ (numerator.log2 + 1) = 2 ^ (guess + 1) * 2 ^ denominator.log2 := by
      rw [← zpow_natCast, ← zpow_natCast, ← zpow_add₀ two_ne_zero]
      congr 1
      omega
    calc (numerator : ℚ) < 2 ^ (numerator.log2 + 1) := most
      _ = 2 ^ (guess + 1) * 2 ^ denominator.log2 := power
      _ ≤ 2 ^ (guess + 1) * denominator :=
          mul_le_mul_of_nonneg_left below (by positivity)

theorem binaryExponent_bounds {numerator denominator : Nat} (some : numerator ≠ 0)
    (positive : denominator ≠ 0) :
    (2 : ℚ) ^ binaryExponent numerator denominator ≤ numerator / denominator ∧
      (numerator : ℚ) / denominator < 2 ^ (binaryExponent numerator denominator + 1) := by
  rcases log2_bounds some positive with ⟨low, high⟩
  have reached := reaches_iff numerator (Nat.pos_of_ne_zero positive)
    (numerator.log2 - denominator.log2)
  by_cases there :
      (2 : ℚ) ^ (numerator.log2 - denominator.log2 : Int) ≤ numerator / denominator
  · have own : binaryExponent numerator denominator = numerator.log2 - denominator.log2 :=
      if_pos (reached.2 there)
    rw [own]
    exact ⟨there, high⟩
  · have own :
        binaryExponent numerator denominator = numerator.log2 - denominator.log2 - 1 :=
      if_neg fun reaches => there (reached.1 reaches)
    rw [own, Int.sub_add_cancel]
    exact ⟨low, not_le.1 there⟩

theorem significand_near (numerator : Nat) {denominator : Nat}
    (positive : denominator ≠ 0) (shift : Nat) :
    let unit : Int := shift - 1022 - 52
    let significand :=
      if 0 ≤ unit then divideToEven numerator (denominator <<< unit.toNat)
      else divideToEven (numerator <<< (-unit).toNat) denominator
    let exact : ℚ := numerator / denominator * 2 ^ 1074
    |(significand : ℚ) * 2 ^ shift - exact| ≤ 2 ^ shift / 2 ∧
      (|(significand : ℚ) * 2 ^ shift - exact| = 2 ^ shift / 2 → Even significand) := by
  intro unit significand exact
  have rounded :
      ∃ ratio : ℚ, ratio * 2 ^ shift = exact ∧ |(significand : ℚ) - ratio| ≤ 1 / 2 ∧
      (|(significand : ℚ) - ratio| = 1 / 2 → Even significand) := by
    simp only [significand]
    split
    · rename_i up
      obtain ⟨steps, same⟩ := Int.eq_ofNat_of_zero_le up
      have shifted : 0 < denominator <<< unit.toNat := by
        rw [Nat.shiftLeft_eq]
        positivity
      refine ⟨_, ?_, divideToEven_near numerator shifted⟩
      have power : (2 : ℚ) ^ shift = 2 ^ 1074 * 2 ^ steps := by
        rw [← pow_add]
        congr 1
        omega
      rw [same, Int.toNat_natCast, Nat.shiftLeft_eq, power]
      simp only [exact]
      generalize (2 : ℚ) ^ 1074 = scale
      push_cast
      field_simp
    · rename_i down
      obtain ⟨steps, same⟩ := Int.eq_ofNat_of_zero_le (by omega : 0 ≤ -unit)
      have near :=
        divideToEven_near (numerator <<< (-unit).toNat) (Nat.pos_of_ne_zero positive)
      refine ⟨_, ?_, near⟩
      have power : (2 : ℚ) ^ 1074 = 2 ^ steps * 2 ^ shift := by
        rw [← pow_add]
        congr 1
        omega
      rw [same, Int.toNat_natCast, Nat.shiftLeft_eq]
      simp only [exact, power]
      push_cast
      field_simp
  rcases rounded with ⟨ratio, own, near, even⟩
  have scaled : |(significand : ℚ) * 2 ^ shift - exact| =
      |(significand : ℚ) - ratio| * 2 ^ shift := by
    rw [← own, ← sub_mul, abs_mul, abs_of_pos (by positivity : (0 : ℚ) < 2 ^ shift)]
  rw [scaled]
  constructor
  · rw [div_eq_inv_mul, ← one_div]
    exact mul_le_mul_of_nonneg_right near (by positivity)
  · intro equal
    rw [div_eq_inv_mul, ← one_div] at equal
    exact even (mul_right_cancel₀ (by positivity) equal)

theorem shift_bounds {ratio : ℚ} {leading : Int} {shift : Nat}
    (low : (2 : ℚ) ^ leading ≤ ratio) (high : ratio < 2 ^ (leading + 1))
    (same : max leading (-1022) = shift - 1022) :
    (shift = 0 ∨ (2 : ℚ) ^ 52 * 2 ^ shift ≤ ratio * 2 ^ 1074) ∧
      ratio * 2 ^ 1074 < 2 ^ 53 * 2 ^ shift := by
  have unit : (0 : ℚ) < 2 ^ 1074 := pow_pos two_pos 1074
  have least : shift = 0 ∨ (2 : ℚ) ^ 52 * 2 ^ shift = 2 ^ leading * 2 ^ 1074 := by
    by_cases small : leading < -1022
    · exact .inl (by omega)
    · right
      rw [← pow_add, ← zpow_natCast _ (52 + shift), ← zpow_natCast _ 1074,
        ← zpow_add₀ two_ne_zero]
      exact congrArg (fun power : Int => (2 : ℚ) ^ power) (by omega)
  have most : (2 : ℚ) ^ (leading + 1) * 2 ^ 1074 ≤ 2 ^ 53 * 2 ^ shift := by
    rw [← pow_add, ← zpow_natCast _ (53 + shift), ← zpow_natCast _ 1074,
      ← zpow_add₀ two_ne_zero]
    exact zpow_le_zpow_right₀ one_le_two (by omega)
  generalize (2 : ℚ) ^ 1074 = scale at *
  constructor
  · refine least.imp_right fun power => ?_
    rw [power]
    exact mul_le_mul_of_nonneg_right low unit.le
  · exact (mul_lt_mul_of_pos_right high unit).trans_le most

theorem nearest_roundFraction {numerator denominator : Nat} (some : numerator ≠ 0)
    (positive : denominator ≠ 0) :
    Nearest ((numerator : ℚ) / denominator * 2 ^ 1074)
    (roundFraction numerator denominator) := by
  rcases binaryExponent_bounds some positive with ⟨low, high⟩
  rw [roundFraction, if_neg some]
  dsimp only
  generalize binaryExponent numerator denominator = leading at low high ⊢
  obtain ⟨shift, same⟩ : ∃ shift : Nat, max leading (-1022) = shift - 1022 :=
    ⟨(max leading (-1022) + 1022).toNat, by omega⟩
  have near := significand_near numerator positive shift
  have bounds := shift_bounds low high same
  have shifted : ((shift : Int) - 1022 + 1022).toNat = shift := by omega
  dsimp only at near
  rw [same, shifted, Nat.shiftLeft_eq]
  generalize (if 0 ≤ (shift : Int) - 1022 - 52 then _ else _ : Nat) =
    significand at near ⊢
  generalize (numerator : ℚ) / denominator * 2 ^ 1074 = number at near bounds ⊢
  rcases near with ⟨near, even⟩
  rcases bounds with ⟨normal, below⟩
  rcases significand_bounds normal near below with ⟨most, whole⟩
  by_cases finite : shift * 2 ^ 52 + significand ≤ infinity
  · rw [Nat.min_eq_left finite]
    exact nearest_of_grid normal near most whole finite even
  · rw [Nat.min_eq_right (Nat.le_of_not_le finite)]
    apply nearest_infinity
    have large : 2046 ≤ shift := by
      rw [infinity] at finite
      omega
    have least := normal.resolve_left (by omega)
    exact (units_infinity_le large).trans least

theorem nearest_zero {number : ℚ} (positive : 0 ≤ number) (small : number < 1 / 2) :
    Nearest number 0 := by
  have nothing : units 0 = 0 := rfl
  have own : distance number 0 = number := by
    rw [distance, nothing, Nat.cast_zero, zero_sub, abs_neg, abs_of_nonneg positive]
  refine ⟨Nat.zero_le _, fun other _ => ?_, fun _ _ _ _ => Even.zero⟩
  rcases Nat.eq_zero_or_pos other with rfl | later
  · exact le_rfl
  · have least : (1 : ℚ) ≤ units other := by
      exact_mod_cast nothing ▸ Nat.succ_le_of_lt (units_strictMono later)
    rw [own, distance]
    refine le_trans ?_ (le_abs_self _)
    linarith

theorem cast_lt_pow_size (digits : Nat) : digits < 10 ^ (digits.log2 / 3 + 1) := by
  have power : 2 ^ (digits.log2 + 1) ≤ 8 ^ (digits.log2 / 3 + 1) := by
    have base : 8 = 2 ^ 3 := rfl
    rw [base, ← Nat.pow_mul]
    exact Nat.pow_le_pow_right (by decide) (by omega)
  calc digits < 2 ^ (digits.log2 + 1) := Nat.lt_log2_self
    _ ≤ 8 ^ (digits.log2 / 3 + 1) := power
    _ ≤ 10 ^ (digits.log2 / 3 + 1) := Nat.pow_le_pow_left (by decide) _

private theorem two_pow_le_ten_pow {power tens : Nat} (less : power ≤ 3 * tens) :
    (2 : ℚ) ^ power ≤ 10 ^ tens := by
  have octal : (2 : ℚ) ^ (3 * tens) = 8 ^ tens := by
    rw [pow_mul]
    norm_num
  calc (2 : ℚ) ^ power ≤ 2 ^ (3 * tens) := pow_le_pow_right₀ one_le_two less
    _ = 8 ^ tens := octal
    _ ≤ 10 ^ tens := pow_le_pow_left₀ (by norm_num) (by norm_num) tens

/-! What is decided by size alone is far outside the range of the numbers. -/

private theorem infinity_le {digits : Nat} (some : digits ≠ 0) {exponent : Int}
    (large : 400 < exponent) :
    (units infinity : ℚ) ≤ digits * 10 ^ exponent * 2 ^ 1074 := by
  have least : (1 : ℚ) ≤ digits := by exact_mod_cast Nat.one_le_iff_ne_zero.2 some
  have top : (units infinity : ℚ) = 2 ^ 1024 * 2 ^ 1074 := by
    rw [units_infinity, Nat.cast_mul, Nat.cast_pow, Nat.cast_pow, Nat.cast_ofNat]
    exact (pow_add 2 52 2046).symm.trans (pow_add 2 1024 1074)
  have power : (2 : ℚ) ^ 1024 ≤ 10 ^ exponent := by
    have tens := two_pow_le_ten_pow (by decide : 1024 ≤ 3 * 400)
    rw [← zpow_natCast 10] at tens
    exact tens.trans (zpow_le_zpow_right₀ (by norm_num) (Int.le_of_lt large))
  rw [top]
  have scale : (0 : ℚ) < 2 ^ 1074 := pow_pos two_pos 1074
  generalize (2 : ℚ) ^ 1074 = scale at scale ⊢
  refine mul_le_mul_of_nonneg_right ?_ scale.le
  exact power.trans (le_mul_of_one_le_left (by positivity) least)

private theorem lt_half {digits : Nat} {exponent : Int}
    (small : exponent + (digits.log2 : Int) / 3 < -400) :
    (digits : ℚ) * 10 ^ exponent * 2 ^ 1074 < 1 / 2 := by
  have size : (digits : ℚ) < 10 ^ (digits.log2 / 3 + 1) := by
    exact_mod_cast cast_lt_pow_size digits
  have scale : (0 : ℚ) < 2 ^ 1074 := pow_pos two_pos 1074
  have power : (10 : ℚ) ^ (-400 : Int) * 2 ^ 1074 ≤ 1 / 2 := by
    have tens := two_pow_le_ten_pow (by decide : 1074 + 1 ≤ 3 * 400)
    rw [pow_succ] at tens
    rw [zpow_neg, inv_mul_le_iff₀ (by positivity), mul_one_div, le_div_iff₀ two_pos]
    exact_mod_cast tens
  generalize (2 : ℚ) ^ 1074 = scale at scale power ⊢
  have tens : (10 : ℚ) ^ (digits.log2 / 3 + 1) * 10 ^ exponent ≤ 10 ^ (-400 : Int) := by
    rw [← zpow_natCast, ← zpow_add₀ (by norm_num)]
    exact zpow_le_zpow_right₀ (by norm_num) (by omega)
  have less : (digits : ℚ) * 10 ^ exponent < 10 ^ (-400 : Int) :=
    (mul_lt_mul_of_pos_right size (by positivity)).trans_le tens
  exact (mul_lt_mul_of_pos_right less scale).trans_le power

theorem nearest_round (digits : Nat) (exponent : Int) :
    Nearest ((digits : ℚ) * 10 ^ exponent * 2 ^ 1074) (round digits exponent) := by
  by_cases none : digits = 0
  · rw [round, if_pos none, none, Nat.cast_zero, zero_mul, zero_mul]
    exact nearest_zero le_rfl one_half_pos
  have large : 400 < exponent → (units infinity : ℚ) ≤ _ := infinity_le none
  have small : exponent + (digits.log2 : Int) / 3 < -400 → (_ : ℚ) < 1 / 2 := lt_half
  have whole := fun steps : Nat =>
    nearest_roundFraction (Nat.mul_ne_zero none (pow_ne_zero steps (by decide : 10 ≠ 0)))
      Nat.one_ne_zero
  have fraction := fun (denominator : Nat) (positive : denominator ≠ 0) =>
    nearest_roundFraction none positive
  have scale : (0 : ℚ) < 2 ^ 1074 := pow_pos two_pos 1074
  generalize (2 : ℚ) ^ 1074 = scale at *
  rw [round, if_neg none]
  by_cases far : 400 < exponent
  · rw [if_pos far]
    exact nearest_infinity (large far)
  rw [if_neg far]
  by_cases near : exponent + (digits.log2 : Int) / 3 < -400
  · rw [if_pos near]
    exact nearest_zero (by positivity) (small near)
  rw [if_neg near]
  by_cases up : 0 ≤ exponent
  · obtain ⟨steps, rfl⟩ := Int.eq_ofNat_of_zero_le up
    have rounded := whole steps
    rw [Nat.cast_one, div_one, Nat.cast_mul, Nat.cast_pow, Nat.cast_ofNat] at rounded
    rw [if_pos up, zpow_natCast]
    exact rounded
  · obtain ⟨steps, same⟩ := Int.eq_ofNat_of_zero_le (by omega : 0 ≤ -exponent)
    have rounded := fraction (10 ^ steps) (by positivity)
    rw [Nat.cast_pow, Nat.cast_ofNat, div_eq_mul_inv] at rounded
    rw [if_neg up, same, ← neg_neg exponent, same, zpow_neg, zpow_natCast]
    exact rounded

end Gateway.Decimal
