import Gateway.Proofs.Router.Moves
import Gateway.Proofs.Run
import Gateway.Proofs.Traced

namespace Gateway

/-! The work of a gateway besides its requests is made of moves: what the registry
does, what picking a destination does, and what alarms are set for. -/

namespace Router

variable {policies : Policies} {router : Router}

theorem Moves.change {ref : ClusterRef} {before after : Cluster}
    (present : router.cluster? ref = some before)
    (changed : before.Change policies after) :
    Moves policies router (router.setCluster ref after) :=
  .single (.change present changed)

private theorem moves_mapCluster (router : Router) (ref : ClusterRef)
    {change : Cluster → Cluster}
    (changed : ∀ cluster : Cluster, cluster.Change policies (change cluster)) :
    Moves policies router (router.mapCluster ref change) := by
  unfold mapCluster
  split
  · exact .refl
  · rename_i cluster present
    exact .change present (changed cluster)

/-! Probe loops. -/

private theorem loop?_of_belongsToLoop {ref : ClusterRef} {loop : Nat} {alarm : Alarm}
    (belongs : belongsToLoop ref loop alarm = true) : alarm.wakeup.loop? ≠ none := by
  intro missing
  rw [belongsToLoop, missing] at belongs
  cases same : alarm.cluster == ref <;> rw [same] at belongs <;> cases belongs

private theorem moves_cancelLoop (router : Router) (ref : ClusterRef) (loop : Nat) :
    Moves policies router (router.cancelLoop ref loop).value := by
  unfold cancelLoop
  split
  · have looped : Moves policies router (router.mapCluster ref (fun cluster =>
        { cluster with loops := cluster.loops.set loop { cancelled := true } })) :=
      moves_mapCluster router ref fun cluster => .looped _
    exact looped.tail (.drop fun _ => loop?_of_belongsToLoop)
  · exact .refl

theorem registered_cancelLoop (router : Router) (ref : ClusterRef) (loop : Nat) :
    (router.cancelLoop ref loop).value.registered = router.registered := by
  unfold cancelLoop
  split
  · have fields := mapCluster_fields router ref
      (fun cluster =>
        { cluster with loops := cluster.loops.set loop { cancelled := true } })
    rcases fields with ⟨clusters, same⟩
    simp only [Traced.value_bind, Traced.value_pure, same]
    rfl
  · rfl

theorem moves_stopProbing (router : Router) (ref : ClusterRef) :
    Moves policies router (router.stopProbing ref).value := by
  unfold stopProbing
  split
  · exact .refl
  · exact (moves_cancelLoop router ref _).tail (.note _ _ _)

theorem registered_stopProbing (router : Router) (ref : ClusterRef) :
    (router.stopProbing ref).value.registered = router.registered := by
  unfold stopProbing
  split
  · rfl
  · exact registered_cancelLoop router ref _

private theorem moves_spawnProbing (router : Router) (ref : ClusterRef) :
    Moves policies router (router.spawnProbing ref).value.1 := by
  unfold spawnProbing
  split
  · split
    · exact .refl
    · rename_i cluster present
      have looped : Moves policies router _ :=
        .change present (.looped (cluster.loops ++ [{ cancelled := cluster.shutDown }]))
      split
      · exact looped
      · refine looped.tail (.set (by simp [Wakeup.loop?]) ?_)
        intro loop policy outcome settles
        cases settles
  · exact .refl

private theorem moves_startProbing (router : Router) (ref : ClusterRef) :
    Moves policies router (router.startProbing ref).value := by
  simp only [startProbing, Traced.value_bind]
  split
  · exact moves_spawnProbing router ref
  · exact (moves_spawnProbing router ref).tail (.note _ _ _)

theorem moves_updateProbing (router : Router) (ref : ClusterRef) (model : ClusterModel)
    (previous : Option ClusterModel) :
    Moves policies router (router.updateProbing ref model previous).value := by
  simp only [updateProbing]
  split
  · exact moves_stopProbing router ref
  · split
    · exact .refl
    · exact (moves_stopProbing router ref).trans (moves_startProbing _ ref)

/-! The registry. -/

theorem registered?_eq_some {id : String} {ref : ClusterRef} {cluster : Cluster}
    (found : router.registered? id = some (ref, cluster)) :
    router.registeredRef? id = some ref ∧ router.cluster? ref = some cluster := by
  rcases Option.bind_eq_some_iff.1 found with ⟨other, named, rest⟩
  rcases Option.bind_eq_some_iff.1 rest with ⟨present, there, same⟩
  cases same
  exact ⟨named, there⟩

private theorem moves_install (router : Router) {model : ClusterModel}
    (accepted : policies.resolve model.config = .ok model) :
    Moves policies router (router.install model).value := by
  unfold install
  split
  · rename_i ref cluster found
    have changed : Moves policies router _ :=
      .change (registered?_eq_some found).2 (.configured accepted)
    exact changed.trans (moves_updateProbing _ ref model _)
  · exact .head (.add accepted) (moves_updateProbing _ _ model none)

theorem moves_configure (known : Known policies router) (config : ClusterConfig) :
    Moves policies router (router.configure config).value.1 := by
  unfold configure
  split
  · exact .refl
  · rename_i model resolved
    rw [known.tables] at resolved
    refine moves_install router ?_
    rw [(Policies.accepts_of_resolve resolved).settings]
    exact resolved

private theorem moves_cancelLoops (router : Router) (ref : ClusterRef) :
    Moves policies router (router.cancelLoops ref).value :=
  Traced.fold_related (Moves policies) (fun _ => .refl) (fun first last =>
    first.trans last)
    (fun router loop => moves_cancelLoop router ref loop) router _

theorem registered_cancelLoops (router : Router) (ref : ClusterRef) :
    (router.cancelLoops ref).value.registered = router.registered :=
  Traced.fold_related (fun before after : Router => after.registered = before.registered)
    (fun _ => rfl) (fun first last => last.trans first)
    (fun router loop => registered_cancelLoop router ref loop) router _

theorem value_shutDown (router : Router) (ref : ClusterRef) :
    (router.shutDown ref).value = ((router.cancelLoops ref).value.close ref).dropAlarms
      (fun alarm => alarm.cluster == ref) := by
  simp only [shutDown, close, Traced.value_bind, Traced.value_pure]

theorem cluster?_shutDown (router : Router) (ref other : ClusterRef) :
    (router.shutDown ref).value.cluster? other =
      if other = ref then
        ((router.cancelLoops ref).value.cluster? ref).map
          (fun cluster => { cluster with shutDown := true })
      else (router.cancelLoops ref).value.cluster? other := by
  have same : ∀ router : Router,
      (router.dropAlarms (fun alarm => alarm.cluster == ref)).cluster? other =
        router.cluster? other := fun _ => rfl
  rw [value_shutDown, same, close, cluster?_mapCluster]

private theorem moves_shutDown (router : Router) {ref : ClusterRef}
    (unregistered : router.registeredRef? ref.id = none) :
    Moves policies router (router.shutDown ref).value := by
  have canceled : Moves policies router (router.cancelLoops ref).value :=
    moves_cancelLoops router ref
  refine canceled.tail (.shutDown ?_)
  simp only [registeredRef?, registered_cancelLoops]
  exact unregistered

theorem moves_remove (router : Router) (id : String) :
    Moves policies router (router.remove id).value.1 := by
  unfold remove
  split
  · exact .refl
  · rename_i ref named
    have unregistered :
        Move policies router { router with registered := router.registered.erase id } :=
      .unregister id
    have erased :
        registeredRef? { router with registered := router.registered.erase id } ref.id =
          none := by
      simp [registeredRef?, id_of_registeredRef? named]
    refine .head unregistered ((moves_stopProbing _ ref).trans (moves_shutDown _ ?_))
    simp only [registeredRef?, registered_stopProbing]
    exact erased

theorem moves_configureEntry (state : Router × List ConfigurationFault)
    (known : Known policies state.1) (config : ClusterConfig) :
    Moves policies state.1 (configureEntry state config).value.1 := by
  have configured := moves_configure known config
  simp only [configureEntry, Traced.value_bind]
  split <;> exact configured

theorem moves_applySnapshot (known : Known policies router)
    (configs : List ClusterConfig) :
    Moves policies router (router.applySnapshot configs).value.1 := by
  have configured : Known policies router →
      Moves policies router (Traced.fold configureEntry (router, []) configs).value.1 :=
    Traced.fold_related
      (fun before after : Router × List ConfigurationFault =>
        Known policies before.1 → Moves policies before.1 after.1)
      (fun _ _ => .refl)
      (fun first last known => (first known).trans (last (known.moves (first known))))
      (fun state config known => moves_configureEntry state known config) (router,
        []) configs
  refine (configured known).trans ?_
  exact Traced.fold_related (Moves policies) (fun _ => .refl)
    (fun first last => first.trans last) (fun router id => moves_remove router id) _ _

/-! Picking a destination moves the load balancer on. -/

theorem moves_pick (router : Router) {ref : ClusterRef} {cluster : Cluster}
    (present : router.cluster? ref = some cluster) (model : ClusterModel)
    (request : Http.Request) :
    Moves policies router (router.pick ref model cluster request).value.1 := by
  simp only [pick, Traced.value_bind, Traced.value_pure]
  exact (Moves.change present (.turned _)).tail (.note _ _ _)

theorem moves_pickNow (router : Router) (ref : ClusterRef) (request : Http.Request) :
    Moves policies router (router.pickNow ref request).value := by
  unfold pickNow
  split
  · exact .refl
  · rename_i cluster present
    exact moves_pick router present cluster.model request

/-! What alarms are set for. -/

theorem value_withCluster (router : Router) (ref : ClusterRef)
    (step : Cluster → Effect Cluster) :
    (router.withCluster ref () (fun cluster =>
      (fun cluster => (cluster, ())) <$> step cluster)).value.1 =
      router.mapCluster ref (fun cluster => (step cluster).value) := by
  unfold withCluster mapCluster
  split <;> rfl

private theorem moves_scheduleTick (router : Router) (ref : ClusterRef) (loop : Nat) :
    Moves policies router (router.scheduleTick ref loop) := by
  unfold scheduleTick
  split
  · exact .refl
  · refine .single (.set (by simp [Wakeup.loop?]) ?_)
    intro loop policy outcome settles
    cases settles

private theorem moves_judge (router : Router) (ref : ClusterRef) {policy : ActivePolicy}
    (known : policy ∈ policies.active.entries) (outcome : BatchEnd) :
    Moves policies router (router.judge ref policy outcome).value := by
  cases outcome with
  | crashed => exact .refl
  | completed results =>
      simp only [judge, Traced.value_map, value_withCluster]
      exact moves_mapCluster router ref fun cluster => .probed known results

private theorem moves_settle (router : Router) (ref : ClusterRef) (loop : Nat)
    {policy : ActivePolicy} (known : policy ∈ policies.active.entries)
    (outcome : BatchEnd) :
    Moves policies router (router.settle ref loop policy outcome).value := by
  have judged := moves_judge router ref known outcome
  unfold settle
  split <;> exact judged.trans (moves_scheduleTick _ ref loop)

end Router

namespace Scene

variable {policies : Policies} {scene : Scene}

theorem router_send (scene : Scene) (ref : ClusterRef) :
    (scene.send ref).value.1.router = scene.router := by
  unfold send
  split
  · rfl
  · split <;> rfl

theorem policy_send (known : Router.Known policies scene.router) (ref : ClusterRef) :
    ∀ policy batch, (scene.send ref).value.2 = some (policy, batch) →
      policy ∈ policies.active.entries := by
  unfold send
  split
  · exact nofun
  · rename_i cluster present
    split
    · exact nofun
    · rename_i judge active
      intro policy batch sent
      simp only [Traced.value_bind, Traced.value_pure, Option.some.injEq,
        Prod.mk.injEq] at sent
      rcases sent with ⟨rfl, -⟩
      have accepted :=
        (Policies.accepts_of_resolve (known.models ref cluster present)).active
      rw [active] at accepted
      exact Policies.mem_active_of_resolveActive accepted

private theorem moves_tick (known : Router.Known policies scene.router) (ref : ClusterRef)
    (loop : Nat) :
    Router.Moves policies scene.router (scene.tick ref loop).value.router := by
  have same := router_send scene ref
  have judged := policy_send known ref
  simp only [tick, Traced.value_bind]
  generalize (scene.send ref).value = result at same judged ⊢
  rcases result with ⟨after, sent⟩
  simp only at same judged ⊢
  rw [← same]
  cases sent with
  | none => exact Router.moves_scheduleTick _ ref loop
  | some answer =>
      rcases answer with ⟨policy, batch⟩
      have listed := judged policy batch rfl
      dsimp only
      split
      · exact Router.moves_settle _ ref loop listed _
      · refine .single (.set (by simp [Wakeup.loop?]) ?_)
        intro other same outcome settles
        simp only [Wakeup.settle.injEq] at settles
        rw [← settles.2.1]
        exact listed

def rung (scene : Scene) (position : Nat) (alarm : Alarm) : Scene :=
  { scene with
    router :=
      { scene.router with
        now := max scene.router.now alarm.due
        agenda := scene.router.agenda.eraseIdx position } }

theorem moves_wake (known : Router.Known policies scene.router) {position : Nat}
    {alarm : Alarm} (pending : scene.router.agenda[position]? = some alarm) :
    Router.Moves policies scene.router
      ((scene.rung position alarm).wake alarm).value.router := by
  have waited : Router.Move policies scene.router
      { scene.router with now := max scene.router.now alarm.due } :=
    .wait (Nat.le_max_left _ _)
  have moves : alarm.wakeup.loop? ≠ none →
      Router.Moves policies scene.router (scene.rung position alarm).router :=
    fun looping => .tail (.single waited) (.ring pending looping)
  have ticked : alarm.wakeup.loop? ≠ none → ∀ loop, Router.Moves policies scene.router
      ((scene.rung position alarm).tick alarm.cluster loop).value.router :=
    fun looping loop =>
      (moves looping).trans (moves_tick (known.moves (moves looping)) alarm.cluster loop)
  unfold wake
  split
  · rename_i exclusion wakeup
    simp only [Traced.value_bind, Traced.value_pure, Router.value_withCluster]
    exact .tail (.single waited) (.reactivate pending wakeup (Nat.le_max_right _ _))
  · rename_i loop wakeup
    exact ticked (by simp [wakeup, Wakeup.loop?]) loop
  · rename_i loop wakeup
    exact ticked (by simp [wakeup, Wakeup.loop?]) loop
  · rename_i loop policy outcome wakeup
    have listed :=
      known.alarms alarm (List.mem_of_getElem? pending) loop policy outcome wakeup
    exact (moves (by simp [wakeup, Wakeup.loop?])).trans
      (Router.moves_settle _ alarm.cluster loop listed outcome)

theorem nextAlarm?_eq_none {agenda : List Alarm} (next : nextAlarm? agenda = none) :
    agenda = [] := by
  cases agenda with
  | nil => rfl
  | cons first rest =>
      simp only [nextAlarm?] at next
      split at next
      · cases next
      · split at next <;> cases next

theorem nextAlarm?_eq_some {agenda others : List Alarm} {alarm : Alarm}
    (next : nextAlarm? agenda = some (alarm, others)) :
    ∃ position, agenda[position]? = some alarm ∧ others = agenda.eraseIdx position := by
  induction agenda generalizing alarm others with
  | nil => cases next
  | cons first rest induction =>
      simp only [nextAlarm?] at next
      split at next
      · rename_i last
        cases next
        rw [nextAlarm?_eq_none last]
        exact ⟨0, rfl, rfl⟩
      · rename_i later remaining found
        split at next
        · cases next
          rcases induction found with ⟨position, pending, same⟩
          exact ⟨position + 1, pending, by rw [same]; rfl⟩
        · cases next
          exact ⟨0, rfl, rfl⟩

private theorem moves_ring (count horizon : Nat) {scene : Scene}
    (known : Router.Known policies scene.router) :
    Router.Moves policies scene.router (ring count horizon scene).value.router := by
  induction count generalizing scene with
  | zero => exact .refl
  | succ count induction =>
      simp only [ring]
      split
      · exact .refl
      · rename_i alarm others next
        split
        · rcases nextAlarm?_eq_some next with ⟨position, pending, rfl⟩
          have woken := moves_wake known pending
          exact woken.trans (induction (known.moves woken))
        · exact .refl

private theorem moves_advanceBefore (known : Router.Known policies scene.router)
    (horizon : Nat) :
    Router.Moves policies scene.router (scene.advanceBefore horizon).value.router :=
  .tail (moves_ring _ horizon known) (.wait (Nat.le_max_left _ _))

theorem moves_advance (known : Router.Known policies scene.router) (limit : Nat) :
    Router.Moves policies scene.router (scene.advance limit).value.router :=
  .tail (moves_ring _ (limit + 1) known) (.wait (Nat.le_max_left _ _))

theorem moves_checkOnce (known : Router.Known policies scene.router) (ref : ClusterRef) :
    Router.Moves policies scene.router (scene.checkOnce ref).value.router := by
  have same := router_send scene ref
  have judged := policy_send known ref
  simp only [checkOnce, Traced.value_bind]
  generalize (scene.send ref).value = result at same judged ⊢
  rcases result with ⟨after, sent⟩
  simp only at same judged ⊢
  rw [← same] at known ⊢
  cases sent with
  | none => exact .refl
  | some answer =>
      rcases answer with ⟨policy, batch⟩
      exact (moves_advanceBefore known _).trans
        (Router.moves_judge _ ref (judged policy batch rfl) _)

theorem moves_ringAt (known : Router.Known policies scene.router) (position : Nat) :
    Router.Moves policies scene.router (scene.ringAt position).value.router := by
  unfold ringAt
  split
  · exact .refl
  · rename_i alarm pending
    exact moves_wake known pending

end Scene

end Gateway
