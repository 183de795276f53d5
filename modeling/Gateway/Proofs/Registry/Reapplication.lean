import Gateway.Proofs.Registry.Structure

namespace Gateway

/-! A snapshot that is applied a second time. Its accepted entries are in force then, each
finds its cluster as it would make it, and there is nothing left to remove. -/

namespace Cluster

variable {cluster before after : Cluster}

private theorem no_changes_of_enrolled (enrolled : cluster.Enrolled) :
    (cluster.changes cluster.model.config.destinations).isEmpty = true := by
  have contains : ∀ id, cluster.current.contains id =
      cluster.model.config.destinations.contains id := by
    intro id
    rw [Bool.eq_iff_iff, Keyed.contains_iff, Keyed.contains_iff, enrolled.keys]
  simp only [DestinationChanges.isEmpty, changes, Bool.and_eq_true, List.isEmpty_iff,
    List.filter_eq_nil_iff, List.map_eq_nil_iff]
  refine ⟨⟨fun id member => ?_, fun entry member => ?_⟩, fun id member => ?_⟩
  · simp [contains, (Keyed.contains_iff _ _).2 member]
  · have listed : entry.1 ∈ cluster.model.config.destinations.keys :=
      List.mem_map_of_mem member
    rw [← enrolled.keys] at listed
    rcases (Keyed.mem_keys_iff _ _).1 listed with ⟨number, named⟩
    rcases enrolled.record entry.1 number named with ⟨destination, stored, -, configured⟩
    rw [(Keyed.get?_eq_some_iff _ _ entry.2).2 member, Option.some.injEq] at configured
    simp [destination?, candidate?, named, stored, configured]
  · simp [← contains, (Keyed.contains_iff _ _).2 member]

theorem publish_publish (cluster : Cluster) :
    cluster.publish.value.publish.value = cluster.publish.value := rfl

private theorem publish_eq_self_iff (cluster : Cluster) :
    cluster.publish.value = cluster ↔ cluster.all = cluster.current.values ∧
      cluster.available = cluster.publish.value.available := by
  constructor
  · intro same
    exact ⟨(congrArg Cluster.all same).symm, (congrArg Cluster.available same).symm⟩
  · rintro ⟨all, available⟩
    change { cluster with
      all := cluster.current.values
      available := cluster.publish.value.available } = cluster
    rw [← all, ← available]

private theorem publish_eq_self_of_withoutLoops
    (same : after.withoutLoops = before.withoutLoops)
    (published : before.publish.value = before) : after.publish.value = after := by
  have listed : after.publish.value.available = before.publish.value.available :=
    (congrArg (fun cluster => cluster.publish.value.available) same :)
  have parts := (publish_eq_self_iff before).1 published
  refine (publish_eq_self_iff after).2 ⟨?_, ?_⟩
  · have all : after.all = before.all := (congrArg Cluster.all same :)
    have current : after.current = before.current := (congrArg Cluster.current same :)
    rw [all, current]
    exact parts.1
  · have available : after.available = before.available :=
      (congrArg Cluster.available same :)
    rw [available, listed]
    exact parts.2

private theorem applyModel_self (enrolled : cluster.Enrolled)
    (published : cluster.publish.value = cluster) :
    (Router.applyModel cluster cluster.model).value = cluster := by
  simp only [Router.applyModel, reconcile, if_pos (no_changes_of_enrolled enrolled),
    Traced.value_bind, Traced.value_pure]
  exact published

end Cluster

namespace Router

variable {policies : Policies} {background : Bool} {router : Router} {id : String}
  {ref : ClusterRef}

theorem updateProbing_self {model : ClusterModel}
    (probed : (router.probing.get? ref.id).isSome = true ↔
      router.background = true ∧ model.active.isSome = true) :
    (router.updateProbing ref model (some model)).value = router := by
  have stopped : ((router.probing.get? ref.id).isSome = true → False) →
      (router.stopProbing ref).value = router :=
    fun unprobed => value_stopProbing_of_unprobed (by simpa using unprobed)
  simp only [updateProbing, Option.any_some, beq_self_eq_true, Bool.true_and]
  split
  · rename_i disabled
    exact stopped fun probed' => by
      have active := (probed.1 probed').2
      rw [← Option.not_isNone, disabled] at active
      cases active
  · rename_i enabled
    split
    · rfl
    · rename_i missing
      have unprobed : (router.probing.get? ref.id).isSome = true → False := by
        intro probed'
        rcases Option.isSome_iff_exists.1 probed' with ⟨loop, kept⟩
        exact missing
          ((Keyed.contains_iff _ _).2 ((Keyed.mem_keys_iff _ _).2 ⟨loop, kept⟩))
      have foreground : router.background = false := by
        apply eq_false_of_ne_true
        intro able
        exact unprobed
          (probed.2 ⟨able, by simpa [Option.isSome_iff_ne_none] using enabled⟩)
      simp only [Traced.value_bind, stopped unprobed,
        value_startProbing_of_foreground foreground]

/-- A configuration is in force: if it is accepted, its model is that of the registered
cluster, whose lists are up to date. -/
def InForce (policies : Policies) (router : Router) (config : ClusterConfig) : Prop :=
  ∀ model, policies.resolve config = .ok model →
    ∃ ref cluster,
      router.registered? config.id = some (ref, cluster) ∧ cluster.model = model ∧
      cluster.publish.value = cluster

theorem InForce.untouched {before after : Router} {config : ClusterConfig}
    (inForce : InForce policies before config)
    (untouched : Untouched config.id before after) :
    InForce policies after config := by
  intro model accepted
  rw [untouched.registered?]
  exact inForce model accepted

private theorem inForce_configure (known : Known policies router)
    (config : ClusterConfig) :
    InForce policies (router.configure config).value.1 config := by
  intro model accepted
  rcases registered?_install router model with
    ⟨ref, cluster, former, here, found, alike, -⟩
  rw [(Policies.accepts_of_resolve accepted).settings] at here
  rw [configure_of_ok known accepted]
  refine ⟨ref, cluster, here ▸ found, ?_, ?_⟩
  · exact (congrArg Cluster.model alike :).trans (Cluster.model_applyModel former model)
  · exact Cluster.publish_eq_self_of_withoutLoops alike (Cluster.publish_publish _)

theorem configure_of_inForce (sound : Sound policies background router)
    {config : ClusterConfig} (inForce : InForce policies router config) :
    (router.configure config).value.1 = router := by
  cases resolved : policies.resolve config with
  | error fault => exact configure_of_error sound.known resolved
  | ok model =>
      rcases inForce model resolved with ⟨ref, cluster, found, rfl, published⟩
      have settings := (Policies.accepts_of_resolve resolved).settings
      rcases registered?_iff.1 found with ⟨named, present⟩
      have here := id_of_registeredRef? named
      have orderly := sound.orderly config.id
      have same := Cluster.applyModel_self
        (orderly.toEntered.orderly ref cluster found).toEnrolled published
      have probed := orderly.probed ref cluster found
      rw [← here] at probed
      rw [configure_of_ok sound.known resolved]
      simp only [install, settings, found, Traced.value_bind, same,
        setCluster_self present]
      exact updateProbing_self probed

private theorem inForce_configureAll (sound : Sound policies background router)
    {configs : List ClusterConfig} (distinct : (configs.map ClusterConfig.id).Nodup) :
    ∀ config ∈ configs, InForce policies (router.configureAll configs).1 config := by
  induction configs using List.reverseRecOn with
  | nil =>
      intro config member
      cases member
  | append_singleton configs last induction =>
      rw [List.map_append, List.nodup_append] at distinct
      rcases distinct with ⟨distinct, -, apart⟩
      have known := (sound.configureAll configs).known
      rw [configureAll_concat, router_configureEntry]
      intro config member
      rcases List.mem_append.1 member with earlier | latest
      · have elsewhere : last.id ≠ config.id :=
          fun same => apart config.id (List.mem_map_of_mem earlier) last.id
            List.mem_cons_self same.symm
        exact (induction distinct config earlier).untouched
          (untouched_configure known elsewhere)
      · rw [List.mem_singleton.1 latest]
        exact inForce_configure known last

private theorem configureAll_of_inForce (sound : Sound policies background router)
    {configs : List ClusterConfig}
    (inForce : ∀ config ∈ configs, InForce policies router config) :
    (router.configureAll configs).1 = router := by
  induction configs using List.reverseRecOn with
  | nil => rfl
  | append_singleton configs last induction =>
      have same := induction fun config member =>
          inForce config (List.mem_append_left _ member)
      rw [configureAll_concat, router_configureEntry, same]
      exact configure_of_inForce sound
        (inForce last (List.mem_append_right _ List.mem_cons_self))

theorem unmentioned_removeAll (known : Known policies router)
    (configs : List ClusterConfig) :
    (router.removeAll (router.unmentioned configs)).unmentioned configs = [] := by
  apply List.eq_nil_iff_forall_not_mem.2
  intro id member
  rcases (mem_unmentioned_iff configs).1 member with ⟨⟨ref, named⟩, missing⟩
  by_cases before : ∃ former, router.registeredRef? id = some former
  · rcases before with ⟨former, registered⟩
    have gone := gone_of_unmentioned known missing registered
    have unregistered := gone.unregistered
    rw [id_of_registeredRef? registered, named] at unregistered
    cases unregistered
  · have untouched := untouched_removeAll router fun there =>
      before ((mem_unmentioned_iff configs).1 there).1
    exact before ⟨ref, untouched.registeredRef?.symm.trans named⟩

end Router

namespace Scene

/-- A snapshot of clusters with different ids that is applied a second time changes
nothing, whatever its entries are: not a record, not a counter, not a list, not an alarm.
And it reports the same refusals. -/
theorem reapplication_after (policies : Policies) (background : Bool)
    (run : List Operation) (configs : List ClusterConfig)
    (distinct : (configs.map ClusterConfig.id).Nodup) :
    let first :=
      (((fresh policies background).after run).router.applySnapshot configs).value
    (first.1.applySnapshot configs).value = first := by
  intro first
  let router := ((fresh policies background).after run).router
  have sound : Router.Sound policies background router :=
    sound_after policies background run
  have middle := sound.configureAll configs
  have after : Router.Sound policies background first.1 := sound.applySnapshot configs
  have inForce : ∀ config ∈ configs, Router.InForce policies first.1 config := by
    intro config member
    exact (Router.inForce_configureAll sound distinct config member).untouched
      (Router.untouched_of_mentioned _ ⟨config, member, rfl⟩)
  have still := Router.configureAll_of_inForce after inForce
  have nothing : first.1.unmentioned configs = [] :=
    Router.unmentioned_removeAll middle.known configs
  have faults := (Router.applied_configureAll after.known configs).faults
  have before := (Router.applied_configureAll sound.known configs).faults
  rw [Router.value_applySnapshot, still, nothing, faults, ← before]
  rfl

/-- Two clusters, one of which is refused; the other is probed and has an excluded
record. -/
theorem reapplication_after_report :
    let snapshot := [addressless "other", probedConfig]
    let run := [.report sampleRef 0 .backendError, .configure probedConfig]
    let first := ((sample.after run).router.applySnapshot snapshot).value
    (snapshot.map ClusterConfig.id).Nodup ∧
      (first.2.length = 1 ∧ first.1.agenda.length = 2) ∧
      (first.1.applySnapshot snapshot).value = first := by
  have distinct : ([addressless "other", probedConfig].map ClusterConfig.id).Nodup := by
    decide
  exact ⟨distinct, by decide +kernel,
    reapplication_after _ true
      [.report sampleRef 0 .backendError, .configure probedConfig] _ distinct⟩

end Scene

end Gateway
