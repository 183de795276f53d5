import Gateway.Traced

namespace Gateway

theorem bind_eq_ok {ε : Type u} {α β : Type v} {first : Except ε α}
    {next : α → Except ε β} {result : β} :
    (first >>= next) = .ok result ↔ ∃ value,
      first = .ok value ∧ next value = .ok result := by
  cases first with
  | error fault => exact iff_of_false nofun nofun
  | ok value =>
      exact ⟨fun ends =>
        ⟨value, rfl, ends⟩, fun ⟨_, same, ends⟩ => by cases same; exact ends⟩

namespace Traced

/-! A relation that every single step of a fold obeys, and that can be followed
from step to step, is obeyed by the whole fold. -/

theorem fold_related {ε : Type u} {σ : Type v} {α : Type w} {step : σ → α → Traced ε σ}
    (Related : σ → σ → Prop) (refl : ∀ state, Related state state)
    (trans : ∀ {before middle after}, Related before middle → Related middle after →
      Related before after)
    (single : ∀ state member, Related state (step state member).value)
    (state : σ) (members : List α) : Related state (fold step state members).value := by
  induction members generalizing state with
  | nil => exact refl state
  | cons member rest induction => exact trans (single state member) (induction _)

theorem value_fold_append {ε : Type u} {σ : Type v} {α : Type w}
    (step : σ → α → Traced ε σ) (state : σ) (first second : List α) :
    (fold step state (first ++ second)).value =
      (fold step (fold step state first).value second).value := by
  induction first generalizing state with
  | nil => rfl
  | cons member rest induction => exact induction _

end Traced

end Gateway
