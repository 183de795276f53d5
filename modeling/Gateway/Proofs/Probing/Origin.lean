import Gateway.Proofs.Dispatch.Answers
import Gateway.Proofs.Registry.Silence

namespace Gateway

/-! Where probes come from. Under the builtin policies nothing sends one but the ticks of
probe loops, and whoever probes a cluster by hand. -/

def Event.isProbe : Event → Bool
  | .probe .. => true
  | .notice _ | .forward .. | .report .. | .issue _ => false

namespace Effect

variable {α β : Type}

def Probeless (effect : Effect α) : Prop :=
  ∀ event ∈ effect.events, event.isProbe = false

private theorem Internal.probeless {effect : Effect α} (internal : effect.Internal) :
    effect.Probeless := by
  intro event told
  have reached := internal event told
  cases event with
  | probe => cases reached
  | _ => rfl

private theorem probeless_pure (value : α) : Probeless (pure value : Effect α) :=
  (internal_pure value).probeless

private theorem probeless_bind {first : Effect α} {next : α → Effect β}
    (before : first.Probeless) (after : (next first.value).Probeless) :
    (first >>= next).Probeless := by
  intro event told
  rcases List.mem_append.1 told with early | late
  · exact before event early
  · exact after event late

private theorem probeless_map {effect : Effect α} (probeless : effect.Probeless)
    (transform : α → β) :
    Probeless (transform <$> effect) :=
  probeless_bind probeless (probeless_pure _)

end Effect

open Effect

namespace Router

variable {source : RandomSource} {protector : Protector} {router : Router}

private theorem probeless_forward (router : Router) (ref : ClusterRef)
    (model : ClusterModel) (picked : Picked) (request : Http.Request) :
    (router.forward ref model picked request).Probeless := by
  have sent : ∀ address uri timeout client,
      Probeless (Traced.emit (.forward address uri timeout client) : Effect PUnit) := by
    intro address uri timeout client event told
    rw [List.mem_singleton.1 told]
    rfl
  exact probeless_bind (sent _ _ _ _) (probeless_pure _)

private theorem probeless_start (known : Known (.builtin source protector) router)
    (ref : ClusterRef) (request : Http.Request) :
    (router.start ref request).Probeless := by
  unfold start
  split
  · exact probeless_pure _
  · rename_i cluster present
    have builtin := Policies.builtin_of_resolve (known.models ref cluster present)
    refine probeless_bind (internal_pick builtin router ref cluster request).probeless ?_
    dsimp only
    split
    · rename_i fault _
      refine probeless_bind ?_ (probeless_pure _)
      cases fault with
      | routing => exact probeless_pure _
      | misuse => exact (internal_bind (internal_tell _) (internal_pure _)).probeless
    · exact probeless_bind (probeless_forward _ ref cluster.model _ request)
        (probeless_pure _)

private theorem probeless_pickNow (known : Known (.builtin source protector) router)
    (ref : ClusterRef) (request : Http.Request) :
    (router.pickNow ref request).Probeless := by
  unfold pickNow
  split
  · exact probeless_pure _
  · rename_i cluster present
    have builtin := Policies.builtin_of_resolve (known.models ref cluster present)
    exact probeless_map (internal_pick builtin router ref cluster request).probeless _

private theorem probeless_endHeldLease (known : Known (.builtin source protector) router)
    (number : Nat) (outcome : Outcome) :
    (router.endHeldLease number outcome).Probeless := by
  unfold endHeldLease
  split
  · exact probeless_pure _
  · exact (internal_endLease known number outcome).probeless

private theorem probeless_abandon (known : Known (.builtin source protector) router)
    (number : Nat) :
    (router.abandon number).Probeless := by
  unfold abandon
  split
  · exact probeless_pure _
  · exact probeless_bind (internal_endLease known _ _).probeless (probeless_pure _)

end Router

namespace Scene

variable {source : RandomSource} {protector : Protector} {scene : Scene}

private theorem probeless_perform
    (known : Router.Known (.builtin source protector) scene.router)
    (owned : Router.Owned (.builtin source protector) scene.router)
    {operation : Operation} (atOnce : operation.takesTime = false) :
    (scene.perform operation).Probeless := by
  have within : ∀ {change : Effect Router}, change.Probeless →
      (scene.withRouter change).Probeless :=
    fun probeless => probeless_bind probeless (probeless_pure _)
  cases operation with
  | configure => exact (internal_perform known rfl rfl).probeless
  | applySnapshot => exact (internal_perform known rfl rfl).probeless
  | remove => exact (internal_perform known rfl rfl).probeless
  | pick ref request => exact within (Router.probeless_pickNow known ref request)
  | start ref request =>
      exact within (probeless_map (Router.probeless_start known ref request) _)
  | finish number result =>
      exact within
        (probeless_map (Router.internal_finish known owned number result).probeless _)
  | abandon number => exact within (Router.probeless_abandon known number)
  | acquire =>
      simp only [perform]
      split <;> exact probeless_pure _
  | complete number outcome =>
      exact within (Router.probeless_endHeldLease known number outcome)
  | drop number => exact within (Router.probeless_endHeldLease known number .canceled)
  | report ref record outcome =>
      exact within (Router.internal_observe known ref record outcome).probeless
  | answer => exact probeless_pure _
  | check => cases atOnce
  | ring => cases atOnce
  | elapse => cases atOnce
  | advance => cases atOnce

theorem origin_of_probe (known : Router.Known (.builtin source protector) scene.router)
    (owned : Router.Owned (.builtin source protector) scene.router)
    {operation : Operation} {event : Event}
    (told : event ∈ (scene.perform operation).events)
    (probes : event.isProbe = true) :
    (∃ ref, operation = .check ref) ∨
      ∃ work ∈ scene.workOf operation, event ∈ (work.scene.wake work.alarm).events := by
  cases takesTime : operation.takesTime with
  | false =>
      rw [probeless_perform known owned takesTime event told] at probes
      cases probes
  | true =>
      cases operation with
      | check ref => exact .inl ⟨ref, rfl⟩
      | ring position =>
          simp only [perform, ringAt] at told
          cases pending : scene.router.agenda[position]? with
          | none =>
              rw [pending] at told
              cases told
          | some alarm =>
              rw [pending] at told
              exact .inr ⟨scene.work position alarm, by simp [workOf, pending], told⟩
      | elapse => cases told
      | advance limit =>
          have rang : event ∈
              (ring (scene.alarmsBefore (limit + 1)) (limit + 1) scene).events := by
            simp only [perform, advance, Traced.events_bind, Traced.events_pure,
              List.append_nil] at told
            exact told
          rw [events_ring] at rang
          exact .inr (List.mem_flatMap.1 rang)
      | _ => cases takesTime

end Scene

end Gateway
