import Gateway.Proofs.Registry.Mirrored
import Gateway.Proofs.Registry.Structure
import Gateway.Proofs.Router.Spared
import Gateway.Router.Hosts

namespace Gateway

/-! Clusters of different ids do not get in each other's way. What concerns one of them
leaves the others as they are, and so what concerns two of them comes to the same in
either order. -/

namespace Router

variable {policies : Policies} {router left right : Router} {id : String}
  {ref : ClusterRef}

def withoutRegistry (router : Router) : Router :=
  { router with clusters := {}, registered := {}, probing := {}, agenda := [] }

private theorem withoutRegistry_mapCluster (router : Router) (ref : ClusterRef)
    (change : Cluster → Cluster) :
    (router.mapCluster ref change).withoutRegistry = router.withoutRegistry := by
  unfold mapCluster
  split <;> rfl

private theorem withoutRegistry_cancelLoop (router : Router) (ref : ClusterRef)
    (loop : Nat) :
    (router.cancelLoop ref loop).value.withoutRegistry = router.withoutRegistry := by
  unfold cancelLoop
  split
  · exact withoutRegistry_mapCluster router ref _
  · rfl

private theorem withoutRegistry_stopProbing (router : Router) (ref : ClusterRef) :
    (router.stopProbing ref).value.withoutRegistry = router.withoutRegistry := by
  unfold stopProbing
  split
  · rfl
  · exact withoutRegistry_cancelLoop router ref _

private theorem withoutRegistry_spawnProbing (router : Router) (ref : ClusterRef) :
    (router.spawnProbing ref).value.1.withoutRegistry = router.withoutRegistry := by
  unfold spawnProbing
  split
  · split
    · rfl
    · dsimp only
      split <;> rfl
  · rfl

private theorem withoutRegistry_startProbing (router : Router) (ref : ClusterRef) :
    (router.startProbing ref).value.withoutRegistry = router.withoutRegistry := by
  have spawned := withoutRegistry_spawnProbing router ref
  simp only [startProbing, Traced.value_bind]
  split <;> exact spawned

private theorem withoutRegistry_updateProbing (router : Router) (ref : ClusterRef)
    (model : ClusterModel) (previous : Option ClusterModel) :
    (router.updateProbing ref model previous).value.withoutRegistry =
      router.withoutRegistry := by
  have stopped := withoutRegistry_stopProbing router ref
  simp only [updateProbing]
  split
  · exact stopped
  · split
    · rfl
    · exact (withoutRegistry_startProbing _ ref).trans stopped

private theorem withoutRegistry_install (router : Router) (model : ClusterModel) :
    (router.install model).value.withoutRegistry = router.withoutRegistry := by
  unfold install
  split <;> exact withoutRegistry_updateProbing _ _ model _

private theorem withoutRegistry_configure (router : Router) (config : ClusterConfig) :
    (router.configure config).value.1.withoutRegistry = router.withoutRegistry := by
  unfold configure
  split
  · rfl
  · exact withoutRegistry_install router _

private theorem withoutRegistry_shutDown (router : Router) (ref : ClusterRef) :
    (router.shutDown ref).value.withoutRegistry = router.withoutRegistry := by
  have cancelled :
      (router.cancelLoops ref).value.withoutRegistry = router.withoutRegistry :=
    Traced.fold_related
      (fun before after : Router => after.withoutRegistry = before.withoutRegistry)
      (fun _ => rfl) (fun first last => last.trans first)
      (fun router loop => withoutRegistry_cancelLoop router ref loop) router _
  have dropped : ∀ router : Router,
      (router.dropAlarms (fun alarm => alarm.cluster == ref)).withoutRegistry =
        router.withoutRegistry := fun _ => rfl
  rw [value_shutDown, dropped, close, withoutRegistry_mapCluster, cancelled]

private theorem withoutRegistry_remove (router : Router) (id : String) :
    (router.remove id).value.1.withoutRegistry = router.withoutRegistry := by
  unfold remove
  split
  · rfl
  · exact (withoutRegistry_shutDown _ _).trans (withoutRegistry_stopProbing _ _)

/-! Two states of a gateway in which everything is the same. The alarms of different ids
may be in different order. -/

theorem Untouched.symm (untouched : Untouched id left right) :
    Untouched id right left where
  incarnations := untouched.incarnations.symm
  registered := untouched.registered.symm
  probing := untouched.probing.symm
  agenda := untouched.agenda.symm

theorem Untouched.mirrored (untouched : Untouched id left right)
    (same : right.withoutRegistry = left.withoutRegistry) : Mirrored id left right :=
  { untouched with
    policies := (congrArg Router.policies same :)
    background := (congrArg Router.background same :)
    now := (congrArg Router.now same :) }

structure SameState (left right : Router) : Prop where
  incarnations : ∀ id, right.incarnations id = left.incarnations id
  registered : right.registered = left.registered
  probing : right.probing = left.probing
  agenda : right.agenda.Perm left.agenda
  order : ∀ id, right.agenda.filter (fun alarm => alarm.cluster.id == id) =
    left.agenda.filter (fun alarm => alarm.cluster.id == id)
  rest : right.withoutRegistry = left.withoutRegistry

theorem perm_of_filter_id {left right : List Alarm}
    (alike : ∀ id, right.filter (fun alarm => alarm.cluster.id == id) =
      left.filter (fun alarm => alarm.cluster.id == id)) : right.Perm left := by
  classical
  rw [List.perm_iff_count]
  intro alarm
  have own : ∀ agenda : List Alarm, agenda.count alarm =
      (agenda.filter (fun other => other.cluster.id == alarm.cluster.id)).count
        alarm := by
    intro agenda
    symm
    apply List.count_filter
    exact beq_self_eq_true alarm.cluster.id
  rw [own right, alike, ← own left]

private theorem sameState_of_untouched (untouched : ∀ id, Untouched id left right)
    (rest : right.withoutRegistry = left.withoutRegistry) : SameState left right where
  incarnations := fun id => (untouched id).incarnations
  registered := Keyed.ext_get? fun id => (untouched id).registered
  probing := Keyed.ext_get? fun id => (untouched id).probing
  agenda := perm_of_filter_id fun id => (untouched id).agenda
  order := fun id => (untouched id).agenda
  rest := rest

theorem SameState.clusterOfRequest? (same : SameState left right)
    (request : Http.Request) :
    right.clusterOfRequest? request = left.clusterOfRequest? request := by
  have entries : right.registered? = left.registered? := by
    funext id
    have untouched : Untouched id left right :=
      ⟨same.incarnations id, by rw [same.registered], by rw [same.probing], same.order id⟩
    exact untouched.registered?
  have hosts : right.clusterOfHost? = left.clusterOfHost? := by
    funext host
    simp only [clusterOfHost?, entries, same.registered]
  rw [Router.clusterOfRequest?, Router.clusterOfRequest?, hosts]

end Router

/-! Reconfigurations of one cluster, and what they come to. -/

inductive Reconfiguration where
  | configure (config : ClusterConfig)
  | remove (id : String)

namespace Reconfiguration

def id : Reconfiguration → String
  | .configure config => config.id
  | .remove id => id

inductive Answer where
  | configured (result : Except ConfigurationFault ClusterModel)
  | removed (found : Bool)

end Reconfiguration

namespace Router

variable {policies : Policies} {router left right : Router} {id : String}

def reconfigure (router : Router) :
    Reconfiguration → Effect (Router × Reconfiguration.Answer)
  | .configure config =>
      (fun result => (result.1, .configured result.2)) <$> router.configure config
  | .remove id => (fun result => (result.1, .removed result.2)) <$> router.remove id

private theorem parallel_reconfigure (change : Reconfiguration)
    (mirrored : Mirrored change.id left right) :
    Traced.Parallel (MirroredWith change.id) (left.reconfigure change)
      (right.reconfigure change) := by
  cases change with
  | configure config =>
      have configured := parallel_configure mirrored rfl
      exact configured.bind fun same =>
        .pure ⟨same.1, congrArg Reconfiguration.Answer.configured same.2⟩
  | remove id =>
      have removed := parallel_remove mirrored
      exact removed.bind fun same =>
        .pure ⟨same.1, congrArg Reconfiguration.Answer.removed same.2⟩

private theorem known_reconfigure (known : Known policies router)
    (change : Reconfiguration) :
    Known policies (router.reconfigure change).value.1 := by
  cases change with
  | configure config => exact known.moves (moves_configure known config)
  | remove id => exact known.moves (moves_remove router id)

private theorem untouched_reconfigure (known : Known policies router)
    {change : Reconfiguration} (elsewhere : change.id ≠ id) :
    Untouched id router (router.reconfigure change).value.1 := by
  cases change with
  | configure config => exact untouched_configure known elsewhere
  | remove id => exact untouched_remove router elsewhere

private theorem withoutRegistry_reconfigure (router : Router) (change : Reconfiguration) :
    (router.reconfigure change).value.1.withoutRegistry = router.withoutRegistry := by
  cases change with
  | configure config => exact withoutRegistry_configure router config
  | remove id => exact withoutRegistry_remove router id

/-- A reconfiguration answers and tells the same whether or not another id was
reconfigured before, and does the same under its own id. -/
theorem parallel_of_reconfigured (known : Known policies router)
    {change other : Reconfiguration} (apart : other.id ≠ change.id) :
    Traced.Parallel (MirroredWith change.id) (router.reconfigure change)
      ((router.reconfigure other).value.1.reconfigure change) :=
  parallel_reconfigure change ((untouched_reconfigure known apart).mirrored
    (withoutRegistry_reconfigure router other))

theorem sameState_reconfigure (known : Known policies router)
    {first second : Reconfiguration} (apart : first.id ≠ second.id) :
    SameState ((router.reconfigure first).value.1.reconfigure second).value.1
      ((router.reconfigure second).value.1.reconfigure first).value.1 := by
  let left := (router.reconfigure first).value.1
  let right := (router.reconfigure second).value.1
  have knownLeft : Known policies left := known_reconfigure known first
  have knownRight : Known policies right := known_reconfigure known second
  refine sameState_of_untouched (fun id => ?_) ?_
  · by_cases atFirst : first.id = id
    · subst atFirst
      have own := (parallel_of_reconfigured known (Ne.symm apart)).value.1.toUntouched
      exact (untouched_reconfigure knownLeft (Ne.symm apart)).symm.trans own
    · by_cases atSecond : second.id = id
      · subst atSecond
        have own := (parallel_of_reconfigured known apart).value.1.toUntouched
        exact own.symm.trans (untouched_reconfigure knownRight apart)
      · have leftUntouched := (untouched_reconfigure known atFirst).trans
          (untouched_reconfigure knownLeft atSecond)
        have rightUntouched := (untouched_reconfigure known atSecond).trans
          (untouched_reconfigure knownRight atFirst)
        exact leftUntouched.symm.trans rightUntouched
  · have leftRest := (withoutRegistry_reconfigure left second).trans
      (withoutRegistry_reconfigure router first)
    have rightRest := (withoutRegistry_reconfigure right first).trans
      (withoutRegistry_reconfigure router second)
    exact rightRest.trans leftRest.symm

end Router

namespace Scene

variable {policies : Policies} {scene : Scene} {id : String}

/-! Many configurations, one after the other. -/

theorem known_configurations (known : Router.Known policies scene.router)
    (configs : List ClusterConfig) :
    Router.Known policies (scene.after (configs.map .configure)).router := by
  induction configs with
  | nil => exact known
  | cons config rest induction =>
      exact induction.moves (Router.moves_configure induction config)

private theorem withoutRegistry_configurations (scene : Scene)
    (configs : List ClusterConfig) :
    (scene.after (configs.map .configure)).router.withoutRegistry =
      scene.router.withoutRegistry := by
  induction configs with
  | nil => rfl
  | cons config rest induction =>
      exact (Router.withoutRegistry_configure _ config).trans induction

private theorem untouched_configurations (known : Router.Known policies scene.router)
    {configs : List ClusterConfig} (elsewhere : ∀ config ∈ configs, config.id ≠ id) :
    Router.Untouched id scene.router (scene.after (configs.map .configure)).router := by
  induction configs with
  | nil => exact .refl id scene.router
  | cons config rest induction =>
      have earlier := induction fun other member =>
          elsewhere other (List.mem_cons_of_mem _ member)
      exact earlier.trans (Router.untouched_configure (known_configurations known rest)
        (elsewhere config List.mem_cons_self))

/-- Of configurations for different ids each does the same as if it were the only one. -/
theorem untouched_configured_alone (known : Router.Known policies scene.router)
    {configs : List ClusterConfig} (distinct : (configs.map ClusterConfig.id).Nodup)
    {config : ClusterConfig} (member : config ∈ configs) :
    Router.Untouched config.id (scene.router.configure config).value.1
      (scene.after (configs.map .configure)).router := by
  induction configs with
  | nil => cases member
  | cons first rest induction =>
      rw [List.map_cons, List.nodup_cons] at distinct
      have others : ∀ other ∈ rest, other.id ≠ first.id := fun other there same =>
        distinct.1 (List.mem_map.2 ⟨other, there, same⟩)
      rcases List.mem_cons.1 member with rfl | later
      · have mirrored := (untouched_configurations known others).mirrored
          (withoutRegistry_configurations scene rest)
        exact (Router.parallel_configure mirrored rfl).value.1.toUntouched
      · exact (induction distinct.2 later).trans
          (Router.untouched_configure (known_configurations known rest)
            (Ne.symm (others config later)))

theorem sameState_configurations (known : Router.Known policies scene.router)
    {configs others : List ClusterConfig}
    (distinct : (configs.map ClusterConfig.id).Nodup)
    (reordered : configs.Perm others) :
    Router.SameState (scene.after (configs.map .configure)).router
      (scene.after (others.map .configure)).router := by
  have alsoDistinct : (others.map ClusterConfig.id).Nodup :=
    (reordered.map ClusterConfig.id).nodup_iff.1 distinct
  refine Router.sameState_of_untouched (fun id => ?_) ?_
  · by_cases mentioned : ∃ config ∈ configs, config.id = id
    · rcases mentioned with ⟨config, member, rfl⟩
      exact (untouched_configured_alone known distinct member).symm.trans
        (untouched_configured_alone known alsoDistinct (reordered.mem_iff.1 member))
    · have elsewhere : ∀ config ∈ configs, config.id ≠ id := fun config member same =>
        mentioned ⟨config, member, same⟩
      exact (untouched_configurations known elsewhere).symm.trans
        (untouched_configurations known fun config member =>
          elsewhere config (reordered.mem_iff.2 member))
  · exact (withoutRegistry_configurations scene others).trans
      (withoutRegistry_configurations scene configs).symm

/-! What an operation concerns. -/

def concerned (scene : Scene) : Operation → List String
  | .configure config => [config.id]
  | .remove id => [id]
  | .applySnapshot configs =>
      configs.map ClusterConfig.id ++ scene.router.registered.keys
  | operation => (scene.sites operation).map ClusterRef.id

private theorem untouched_applySnapshot (known : Router.Known policies scene.router)
    {configs : List ClusterConfig}
    (elsewhere : id ∉ scene.concerned (.applySnapshot configs)) :
    Router.Untouched id scene.router (scene.router.applySnapshot configs).value.1 := by
  have missing : ∀ config ∈ configs, config.id ≠ id := fun config member same =>
    elsewhere (List.mem_append_left _ (List.mem_map.2 ⟨config, member, same⟩))
  have nothing : policies.acceptedFor id configs = [] := by
    rw [List.eq_nil_iff_forall_not_mem]
    intro config member
    have there := Policies.mem_of_mem_acceptedFor member
    exact missing config there.1 there.2
  have configured := (Router.applied_configureAll known configs).untouched id nothing
  let middle := (scene.router.configureAll configs).1
  have removed :
      Router.Untouched id middle (middle.removeAll (middle.unmentioned configs)) := by
    refine Router.untouched_removeAll middle fun dropped => ?_
    rcases ((Router.mem_unmentioned_iff configs).1 dropped).1 with ⟨ref, named⟩
    rw [configured.registeredRef?] at named
    rcases Option.map_eq_some_iff.1 named with ⟨incarnation, there, -⟩
    exact elsewhere
      (List.mem_append_right _ ((Keyed.mem_keys_iff _ _).2 ⟨incarnation, there⟩))
  exact configured.trans removed

theorem untouched_perform (known : Router.Known policies scene.router)
    {operation : Operation} (elsewhere : id ∉ scene.concerned operation) :
    Router.Untouched id scene.router (scene.perform operation).value.router := by
  cases reconfigures : operation.reconfigures with
  | false =>
      have outside : ∀ ref ∈ scene.sites operation, (ref.id == id) = false := by
        intro ref member
        refine beq_eq_false_iff_ne.2 fun here => elsewhere ?_
        have concerned : id ∈ (scene.sites operation).map ClusterRef.id :=
          List.mem_map.2 ⟨ref, member, here⟩
        cases operation with
        | configure => cases reconfigures
        | applySnapshot => cases reconfigures
        | remove => cases reconfigures
        | _ => exact concerned
      exact (spared_perform reconfigures outside).untouched
        (sameOutline_perform reconfigures)
  | true =>
      cases operation with
      | configure config =>
          exact Router.untouched_configure known fun here =>
            elsewhere (List.mem_singleton.2 here.symm)
      | applySnapshot configs => exact untouched_applySnapshot known elsewhere
      | remove other =>
          exact Router.untouched_remove scene.router fun here =>
            elsewhere (List.mem_singleton.2 here.symm)
      | _ => cases reconfigures

private theorem untouched_wake (scene : Scene) {alarm : Alarm}
    (elsewhere : alarm.cluster.id ≠ id) :
    Router.Untouched id scene.router (scene.wake alarm).value.router :=
  have outside : (fun ref : ClusterRef => ref.id == id) alarm.cluster = false :=
    beq_eq_false_iff_ne.2 elsewhere
  (spared_wake scene outside).untouched (sameOutline_wake scene alarm)

/-- Clusters of different ids are independent of each other, in every reachable state. An
operation leaves all incarnations of every id alone that it does not concern, with their
records, counters, lists and probe loops, and so does each alarm that rings meanwhile.
Reconfigurations of two ids answer the same, tell the same and come to the same state in
either order, whether they are accepted or not. So the order of configurations for
different ids is of no account, neither for the clusters nor for which of them a request
is for. -/
theorem clusters_independent_after (policies : Policies) (background : Bool)
    (run : List Operation) :
    let scene := (fresh policies background).after run
    (∀ operation id, id ∉ scene.concerned operation →
      Router.Untouched id scene.router (scene.perform operation).value.router) ∧
    (∀ operation, ∀ work ∈ scene.workOf operation, ∀ id, work.alarm.cluster.id ≠ id →
      Router.Untouched id work.scene.router work.after.router) ∧
    (∀ first second : Reconfiguration, first.id ≠ second.id →
      let left := scene.router.reconfigure first
      let right := scene.router.reconfigure second
      let leftThen := left.value.1.reconfigure second
      let rightThen := right.value.1.reconfigure first
      rightThen.value.2 = left.value.2 ∧ leftThen.value.2 = right.value.2 ∧
        rightThen.events = left.events ∧ leftThen.events = right.events ∧
        Router.SameState leftThen.value.1 rightThen.value.1) ∧
    ∀ configs others : List ClusterConfig, (configs.map ClusterConfig.id).Nodup →
      configs.Perm others →
      let left := (scene.after (configs.map .configure)).router
      let right := (scene.after (others.map .configure)).router
      Router.SameState left right ∧
        ∀ request, right.clusterOfRequest? request = left.clusterOfRequest? request := by
  intro scene
  have known : Router.Known policies scene.router :=
    (sound_after policies background run).known
  refine ⟨fun operation id elsewhere => untouched_perform known elsewhere,
    fun operation work _ id elsewhere => untouched_wake work.scene elsewhere,
    fun first second apart => ?_, fun configs others distinct reordered => ?_⟩
  · have firstAlike := Router.parallel_of_reconfigured known (Ne.symm apart)
    have secondAlike := Router.parallel_of_reconfigured known apart
    exact ⟨firstAlike.value.2, secondAlike.value.2, firstAlike.events, secondAlike.events,
      Router.sameState_reconfigure known apart⟩
  · have same := sameState_configurations known distinct reordered
    exact ⟨same, same.clusterOfRequest?⟩

/-- Two clusters with the same destinations, configured in either order. -/
theorem siblings_in_either_order :
    let sibling : ClusterConfig := { probedConfig with id := "sibling" }
    let left := (sample.after [.configure sampleConfig, .configure sibling]).router
    let right := (sample.after [.configure sibling, .configure sampleConfig]).router
    Router.SameState left right ∧ left.registered.keys = ["cluster", "sibling"] ∧
      left.agenda.length = 1 := by
  intro sibling left right
  have independent := clusters_independent_after sample.router.policies true []
  have distinct : ([sampleConfig, sibling].map ClusterConfig.id).Nodup := by decide
  have same := independent.2.2.2 [sampleConfig, sibling] [sibling, sampleConfig] distinct
    (.swap sibling sampleConfig [])
  exact ⟨same.1, by decide +kernel, by decide +kernel⟩

end Scene

end Gateway
