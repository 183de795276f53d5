import Gateway.Proofs.Router.Background

namespace Gateway.Router

/-! The registry works on one cluster at a time: whatever it does to the cluster of one
id, it does nothing to those of another. -/

variable {policies : Policies} {router : Router} {id : String} {ref : ClusterRef}

theorem registered?_of_named (named : router.registeredRef? id = some ref) :
    router.registered? id = (router.cluster? ref).map (Prod.mk ref) := by
  simp only [registered?, named, Option.bind_eq_bind, Option.bind_some]
  cases router.cluster? ref <;> rfl

theorem registered?_of_unnamed (unnamed : router.registeredRef? id = none) :
    router.registered? id = none := by
  simp only [registered?, unnamed]
  rfl

theorem registered?_iff {cluster : Cluster} :
    router.registered? id = some (ref, cluster) ↔
      router.registeredRef? id = some ref ∧ router.cluster? ref = some cluster := by
  refine ⟨registered?_eq_some, fun found => ?_⟩
  rw [registered?_of_named found.1, found.2, Option.map_some]

/-- Two states of a gateway that do not differ in what they have under an id: all
incarnations, the registration, the probe loop and the pending alarms. -/
structure Untouched (id : String) (before after : Router) : Prop where
  incarnations : after.incarnations id = before.incarnations id
  registered : after.registered.get? id = before.registered.get? id
  probing : after.probing.get? id = before.probing.get? id
  agenda : after.agenda.filter (fun alarm => alarm.cluster.id == id) =
    before.agenda.filter (fun alarm => alarm.cluster.id == id)

namespace Untouched

variable {before middle after : Router}

theorem refl (id : String) (router : Router) : Untouched id router router :=
  ⟨rfl, rfl, rfl, rfl⟩

theorem trans (first : Untouched id before middle) (last : Untouched id middle after) :
    Untouched id before after where
  incarnations := last.incarnations.trans first.incarnations
  registered := last.registered.trans first.registered
  probing := last.probing.trans first.probing
  agenda := last.agenda.trans first.agenda

theorem registeredRef? (untouched : Untouched id before after) :
    after.registeredRef? id = before.registeredRef? id := by
  rw [Router.registeredRef?, untouched.registered]
  rfl

theorem cluster? (untouched : Untouched id before after) (here : ref.id = id) :
    after.cluster? ref = before.cluster? ref := by
  subst here
  rw [Router.cluster?, untouched.incarnations]
  rfl

theorem registered? (untouched : Untouched id before after) :
    after.registered? id = before.registered? id := by
  have same := untouched.registeredRef?
  cases named : before.registeredRef? id with
  | none => rw [registered?_of_unnamed named, registered?_of_unnamed (same.trans named)]
  | some ref =>
      rw [registered?_of_named named, registered?_of_named (same.trans named),
        untouched.cluster? (id_of_registeredRef? named)]

theorem mem_agenda (untouched : Untouched id before after) {alarm : Alarm}
    (here : alarm.cluster.id = id) (pending : alarm ∈ after.agenda) :
    alarm ∈ before.agenda := by
  have kept : alarm ∈ after.agenda.filter (fun alarm => alarm.cluster.id == id) :=
    List.mem_filter.2 ⟨pending, beq_iff_eq.2 here⟩
  rw [untouched.agenda] at kept
  exact (List.mem_filter.1 kept).1

end Untouched

section Elsewhere

variable (elsewhere : ref.id ≠ id)

include elsewhere

private theorem untouched_setCluster (router : Router) (cluster : Cluster) :
    Untouched id router (router.setCluster ref cluster) where
  incarnations := by rw [incarnations_setCluster, if_neg (Ne.symm elsewhere)]
  registered := rfl
  probing := rfl
  agenda := rfl

private theorem untouched_mapCluster (router : Router) (change : Cluster → Cluster) :
    Untouched id router (router.mapCluster ref change) := by
  unfold mapCluster
  split
  · exact .refl id router
  · exact untouched_setCluster elsewhere router _

omit elsewhere in
private theorem untouched_dropAlarms (router : Router) {drop : Alarm → Bool}
    (apart : ∀ alarm, drop alarm = true → alarm.cluster.id ≠ id) :
    Untouched id router (router.dropAlarms drop) := by
  refine ⟨rfl, rfl, rfl, ?_⟩
  rw [dropAlarms, List.filter_filter]
  refine List.filter_congr fun alarm _ => ?_
  cases dropped : drop alarm with
  | false => simp
  | true => simp [apart alarm dropped]

private theorem untouched_setAlarm (router : Router) (due : Nat) (wakeup : Wakeup) :
    Untouched id router (router.setAlarm { due, cluster := ref, wakeup }) := by
  refine ⟨rfl, rfl, rfl, ?_⟩
  simp [setAlarm, elsewhere]

private theorem untouched_cancelLoop (router : Router) (loop : Nat) :
    Untouched id router (router.cancelLoop ref loop).value := by
  unfold cancelLoop
  split
  · refine (untouched_mapCluster elsewhere router _).trans (untouched_dropAlarms _ ?_)
    intro alarm belongs
    have same := (Bool.and_eq_true _ _).mp belongs
    rw [beq_iff_eq.1 same.1]
    exact elsewhere
  · exact .refl id router

private theorem untouched_stopProbing (router : Router) :
    Untouched id router (router.stopProbing ref).value := by
  unfold stopProbing
  split
  · exact .refl id router
  · rename_i loop _
    have cancelled := untouched_cancelLoop elsewhere router loop
    refine cancelled.trans ⟨rfl, rfl, ?_, rfl⟩
    rw [Traced.value_bind, Traced.value_pure, Keyed.get?_erase,
      if_neg (Ne.symm elsewhere)]

private theorem untouched_spawnProbing (router : Router) :
    Untouched id router (router.spawnProbing ref).value.1 := by
  unfold spawnProbing
  split
  · split
    · exact .refl id router
    · dsimp only
      split
      · exact untouched_setCluster elsewhere router _
      · exact (untouched_setCluster elsewhere router _).trans
          (untouched_setAlarm elsewhere _ _ _)
  · exact .refl id router

private theorem untouched_startProbing (router : Router) :
    Untouched id router (router.startProbing ref).value := by
  have spawned := untouched_spawnProbing elsewhere router
  simp only [startProbing, Traced.value_bind]
  split
  · exact spawned
  · refine spawned.trans ⟨rfl, rfl, ?_, rfl⟩
    rw [Traced.value_pure, Keyed.get?_insert, if_neg (Ne.symm elsewhere)]

private theorem untouched_updateProbing (router : Router) (model : ClusterModel)
    (previous : Option ClusterModel) :
    Untouched id router (router.updateProbing ref model previous).value := by
  simp only [updateProbing]
  split
  · exact untouched_stopProbing elsewhere router
  · split
    · exact .refl id router
    · exact (untouched_stopProbing elsewhere router).trans
        (untouched_startProbing elsewhere _)

private theorem untouched_shutDown (router : Router) :
    Untouched id router (router.shutDown ref).value := by
  have cancelled : Untouched id router (router.cancelLoops ref).value :=
    Traced.fold_related (Untouched id) (.refl id) (fun first last => first.trans last)
      (fun router loop => untouched_cancelLoop elsewhere router loop) router _
  refine cancelled.trans
    ((untouched_mapCluster elsewhere _ _).trans (untouched_dropAlarms _ ?_))
  intro alarm belongs
  rw [beq_iff_eq.1 belongs]
  exact elsewhere

end Elsewhere

private theorem untouched_addCluster (router : Router) {cluster : Cluster}
    (elsewhere : cluster.id ≠ id) :
    Untouched id router (router.addCluster cluster).1 where
  incarnations := by rw [incarnations_addCluster, if_neg (Ne.symm elsewhere)]
  registered := by rw [addCluster, Keyed.get?_insert, if_neg (Ne.symm elsewhere)]
  probing := rfl
  agenda := rfl

theorem id_applyModel (cluster : Cluster) (model : ClusterModel) :
    (applyModel cluster model).value.id = cluster.id := by
  simp only [applyModel, Cluster.reconcile]
  split <;> rfl

private theorem untouched_install (router : Router) {model : ClusterModel}
    (elsewhere : model.config.id ≠ id) :
    Untouched id router (router.install model).value := by
  unfold install
  split
  · rename_i ref cluster found
    have here := id_of_registeredRef? (registered?_eq_some found).1
    have apart : ref.id ≠ id := here ▸ elsewhere
    exact (untouched_setCluster apart router _).trans
      (untouched_updateProbing apart _ _ _)
  · have apart : (applyModel (.ofModel model) model).value.id ≠ id := by
      rw [id_applyModel]
      exact elsewhere
    exact (untouched_addCluster router apart).trans (untouched_updateProbing apart _ _ _)

theorem untouched_configure (known : Known policies router) {config : ClusterConfig}
    (elsewhere : config.id ≠ id) :
    Untouched id router (router.configure config).value.1 := by
  unfold configure
  split
  · exact .refl id router
  · rename_i model resolved
    rw [known.tables] at resolved
    refine untouched_install router ?_
    rw [(Policies.accepts_of_resolve resolved).settings]
    exact elsewhere

theorem untouched_remove (router : Router) {other : String} (elsewhere : other ≠ id) :
    Untouched id router (router.remove other).value.1 := by
  unfold remove
  split
  · exact .refl id router
  · rename_i ref named
    have apart : ref.id ≠ id := by
      rw [id_of_registeredRef? named]
      exact elsewhere
    have unregistered :
        Untouched id router
          { router with registered := router.registered.erase other } := by
      refine ⟨rfl, ?_, rfl, rfl⟩
      rw [Keyed.get?_erase, if_neg (Ne.symm elsewhere)]
    exact unregistered.trans
      ((untouched_stopProbing apart _).trans (untouched_shutDown apart _))

/-! What is left of a cluster that was removed. -/

/-- A cluster is gone: nobody finds it by its id, it is shut down, no probe loop is kept
for it, and nothing that was to happen there is pending. -/
structure Gone (router : Router) (ref : ClusterRef) : Prop where
  unregistered : router.registeredRef? ref.id = none
  shutDown : router.isShutDown ref = true
  unprobed : router.probing.get? ref.id = none
  silent : ∀ alarm ∈ router.agenda, alarm.cluster ≠ ref

theorem Gone.untouched {after : Router} (gone : router.Gone ref)
    (untouched : Untouched ref.id router after) : after.Gone ref where
  unregistered := untouched.registeredRef?.trans gone.unregistered
  shutDown := by
    rw [isShutDown, untouched.cluster? rfl]
    exact gone.shutDown
  unprobed := untouched.probing.trans gone.unprobed
  silent := fun alarm pending here =>
    gone.silent alarm (untouched.mem_agenda (congrArg ClusterRef.id here) pending) here

private theorem probing_cancelLoop (router : Router) (ref : ClusterRef) (loop : Nat) :
    (router.cancelLoop ref loop).value.probing = router.probing := by
  unfold cancelLoop
  split
  · rcases mapCluster_fields router ref
      (fun cluster =>
        { cluster with loops := cluster.loops.set loop { cancelled := true } }) with
      ⟨clusters, same⟩
    simp only [Traced.value_bind, Traced.value_pure, same]
    rfl
  · rfl

private theorem isSome_cluster?_cancelLoop (router : Router) (loop : Nat)
    (present : (router.cluster? ref).isSome = true) :
    ((router.cancelLoop ref loop).value.cluster? ref).isSome = true := by
  unfold cancelLoop
  split
  · have changed := cluster?_mapCluster router ref
      (fun cluster =>
        { cluster with loops := cluster.loops.set loop { cancelled := true } }) ref
    rw [if_pos rfl] at changed
    exact (congrArg Option.isSome changed).trans (by rwa [Option.isSome_map])
  · exact present

private theorem isSome_cluster?_stopProbing (router : Router)
    (present : (router.cluster? ref).isSome = true) :
    ((router.stopProbing ref).value.cluster? ref).isSome = true := by
  unfold stopProbing
  split
  · exact present
  · exact isSome_cluster?_cancelLoop router _ present

theorem probing_stopProbing (router : Router) (ref : ClusterRef) :
    (router.stopProbing ref).value.probing.get? ref.id = none := by
  unfold stopProbing
  split
  · rename_i nothing
    exact nothing
  · rw [Traced.value_bind, Traced.value_pure, Keyed.get?_erase, if_pos rfl]

private theorem probing_cancelLoops (router : Router) (ref : ClusterRef) :
    (router.cancelLoops ref).value.probing = router.probing :=
  Traced.fold_related (fun before after : Router => after.probing = before.probing)
    (fun _ => rfl) (fun first last => last.trans first)
    (fun router loop => probing_cancelLoop router ref loop) router _

private theorem isSome_cluster?_cancelLoops (router : Router) (ref : ClusterRef) :
    (router.cluster? ref).isSome = true →
      ((router.cancelLoops ref).value.cluster? ref).isSome = true :=
  Traced.fold_related
    (fun before after : Router => (before.cluster? ref).isSome = true →
      (after.cluster? ref).isSome = true)
    (fun _ => id) (fun first last present => last (first present))
    (fun router loop => isSome_cluster?_cancelLoop router loop) router _

private theorem gone_shutDown (router : Router)
    (present : (router.cluster? ref).isSome = true)
    (unregistered : router.registeredRef? ref.id = none)
    (unprobed : router.probing.get? ref.id = none) :
    (router.shutDown ref).value.Gone ref := by
  have there := isSome_cluster?_cancelLoops router ref present
  rcases Option.isSome_iff_exists.1 there with ⟨cluster, found⟩
  rcases mapCluster_fields (router.cancelLoops ref).value ref
    (fun cluster => { cluster with shutDown := true }) with ⟨clusters, same⟩
  constructor
  · simp only [shutDown, Traced.value_bind, Traced.value_pure, dropAlarms, registeredRef?,
      same, registered_cancelLoops]
    exact unregistered
  · have closed := cluster?_shutDown router ref ref
    rw [if_pos rfl, found, Option.map_some] at closed
    exact isShutDown_of_cluster? closed
  · simp only [shutDown, Traced.value_bind, Traced.value_pure, dropAlarms, same,
      probing_cancelLoops]
    exact unprobed
  · intro alarm pending here
    have kept := (List.mem_filter.1 pending).2
    simp [here] at kept

theorem gone_remove (named : router.registeredRef? id = some ref)
    (present : (router.cluster? ref).isSome = true) :
    (router.remove id).value.1.Gone ref := by
  have here := id_of_registeredRef? named
  subst here
  simp only [remove, named, Traced.value_bind, Traced.value_pure]
  refine gone_shutDown _ (isSome_cluster?_stopProbing _ present) ?_
    (probing_stopProbing _ ref)
  simp [registeredRef?, registered_stopProbing]

theorem remove_of_unnamed (unnamed : router.registeredRef? id = none) :
    (router.remove id).value.1 = router := by
  simp only [remove, unnamed]
  rfl

theorem Gone.remove (gone : router.Gone ref) (other : String) :
    (router.remove other).value.1.Gone ref := by
  by_cases here : other = ref.id
  · subst here
    rw [remove_of_unnamed gone.unregistered]
    exact gone
  · exact gone.untouched (untouched_remove router here)

end Gateway.Router
