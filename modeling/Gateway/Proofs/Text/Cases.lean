import Gateway.Text.Folding
import Mathlib.Data.List.Forall2

namespace Gateway.Text

/-! Names that are compared without regard to case, told by a table of letters. -/

/-- Each capital with its small letter. The Kelvin sign is a capital like any other. -/
def capitals : List (Char × Char) :=
  "ABCDEFGHIJKLMNOPQRSTUVWXYZ\u212a".toList.zip "abcdefghijklmnopqrstuvwxyzk".toList

/-- What a character is in small letters. -/
inductive Small : Char → Char → Prop
  | capital {character small : Char} (listed : (character, small) ∈ capitals) :
      Small character small
  | other {character : Char} (unlisted : ∀ small, (character, small) ∉ capitals) :
      Small character character

/-- Two texts that differ in the case of their letters at most. -/
def SameInAnyCase (left right : String) : Prop :=
  List.Forall₂ (fun first second => ∃ small, Small first small ∧ Small second small)
    left.toList right.toList

private theorem foldCharacter_of_capital :
    ∀ entry ∈ capitals, foldCharacter entry.1 = entry.2 := by
  decide

private theorem capital_of_code :
    ∀ code < 91,
      65 ≤ code → (Char.ofNat code, foldCharacter (Char.ofNat code)) ∈ capitals := by
  decide

private theorem code_of_capital :
    ∀ entry ∈ capitals, entry.1 = '\u212a' ∨ 65 ≤ entry.1.toNat ∧ entry.1.toNat < 91 := by
  decide

private theorem small_foldCharacter (character : Char) :
    Small character (foldCharacter character) := by
  by_cases kelvin : character = '\u212a'
  · rw [kelvin]
    exact .capital (by decide)
  by_cases capital : 65 ≤ character.toNat ∧ character.toNat < 91
  · have listed := capital_of_code character.toNat capital.2 capital.1
    rw [Char.ofNat_toNat] at listed
    exact .capital listed
  · have same : foldCharacter character = character := by
      rw [foldCharacter, if_neg kelvin]
      refine dif_neg ?_
      rintro ⟨above, below⟩
      rw [ge_iff_le, UInt32.le_iff_toNat_le] at above
      rw [UInt32.le_iff_toNat_le] at below
      exact capital ⟨above, Nat.lt_succ_of_le below⟩
    rw [same]
    refine .other fun small listed => ?_
    exact (code_of_capital _ listed).elim kelvin capital

private theorem small_iff {character small : Char} :
    Small character small ↔ foldCharacter character = small := by
  constructor
  · intro letter
    cases letter with
    | capital listed => exact foldCharacter_of_capital _ listed
    | other unlisted =>
        generalize same : foldCharacter character = folded
        cases same ▸ small_foldCharacter character with
        | capital listed => exact absurd listed (unlisted folded)
        | other => rfl
  · rintro rfl
    exact small_foldCharacter character

theorem fold_eq_fold_iff {left right : String} :
    fold left = fold right ↔ SameInAnyCase left right := by
  have common : ∀ first second : Char, (∃ small, Small first small ∧ Small second small) ↔
      foldCharacter first = foldCharacter second := by
    intro first second
    simp only [small_iff, ↓existsAndEq, true_and]
    exact eq_comm
  rw [fold, fold, String.ofList_inj, SameInAnyCase]
  simp only [common]
  rw [← List.forall₂_eq_eq_eq, List.forall₂_map_left_iff, List.forall₂_map_right_iff]

instance (left right : String) : Decidable (SameInAnyCase left right) :=
  decidable_of_iff _ fold_eq_fold_iff

/-- Case is all that may differ: a blank is no part of a name. -/
example :
    SameInAnyCase "RoundRobin" "roundROBIN" ∧
      ¬ SameInAnyCase "RoundRobin" "Round Robin" := by
  decide

end Gateway.Text
