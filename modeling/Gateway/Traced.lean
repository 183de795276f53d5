namespace Gateway

/-! A value together with the events that led to it, earliest first.
Sequencing two computations joins their events. -/

structure Traced (ε : Type u) (α : Type v) where
  value : α
  events : List ε := []

namespace Traced

protected def pure {ε : Type u} {α : Type v} (value : α) : Traced ε α :=
  { value }

protected def bind {ε : Type u} {α β : Type v} (first : Traced ε α)
    (next : α → Traced ε β) : Traced ε β :=
  let second := next first.value
  { value := second.value, events := first.events ++ second.events }

instance {ε : Type u} : Monad (Traced ε) where
  pure := Traced.pure
  bind := Traced.bind

/-! Records one event. -/

def emit {ε : Type u} (event : ε) : Traced ε PUnit.{v + 1} :=
  { value := ⟨⟩, events := [event] }

@[simp] theorem value_pure {ε : Type u} {α : Type v} (value : α) :
    (pure value : Traced ε α).value = value := rfl

@[simp] theorem events_pure {ε : Type u} {α : Type v} (value : α) :
    (pure value : Traced ε α).events = [] := rfl

@[simp] theorem value_bind {ε : Type u} {α β : Type v} (first : Traced ε α)
    (next : α → Traced ε β) : (first >>= next).value = (next first.value).value := rfl

@[simp] theorem events_bind {ε : Type u} {α β : Type v} (first : Traced ε α)
    (next : α → Traced ε β) :
    (first >>= next).events = first.events ++ (next first.value).events := rfl

@[simp] theorem value_map {ε : Type u} {α β : Type v} (transform : α → β)
    (first : Traced ε α) : (transform <$> first).value = transform first.value := rfl

@[simp] theorem events_map {ε : Type u} {α β : Type v} (transform : α → β)
    (first : Traced ε α) : (transform <$> first).events = first.events :=
  List.append_nil _

@[simp] theorem events_emit {ε : Type u} (event : ε) :
    (emit event : Traced ε PUnit.{v + 1}).events = [event] := rfl

instance {ε : Type u} : LawfulMonad (Traced ε) :=
  LawfulMonad.mk' (Traced ε)
    (fun first => by
      cases first
      simp [Functor.map, Traced.bind, Traced.pure])
    (fun value next => by simp [Bind.bind, Pure.pure, Traced.bind, Traced.pure])
    (fun first next last => by simp [Bind.bind, Traced.bind])

/-! Runs a step for every member of a list, handing a state along. -/

def fold {ε : Type u} {σ : Type v} {α : Type w} (step : σ → α → Traced ε σ) :
    σ → List α → Traced ε σ
  | state, [] => pure state
  | state, member :: rest => do
      let state ← step state member
      fold step state rest

end Traced

end Gateway
