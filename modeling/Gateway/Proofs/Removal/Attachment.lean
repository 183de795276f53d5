import Gateway.Proofs.Exclusions.Timers
import Gateway.Proofs.Registry.Lasting
import Gateway.Proofs.Registry.Structure

namespace Gateway

/-! Whatever is at work is configured: clusters that are not shut down, and those that a
timer is set for. So what was removed is never woken again. -/

namespace Router

variable {policies : Policies} {router before after : Router} {id : String}
  {ref : ClusterRef}

/-- Everything that is at work belongs to a configured cluster. -/
structure Attached (router : Router) : Prop where
  working : ∀ ref cluster, router.cluster? ref = some cluster → cluster.shutDown = false →
    router.registeredRef? ref.id = some ref
  timers : ∀ alarm ∈ router.agenda, alarm.wakeup.loop? = none →
    router.registeredRef? alarm.cluster.id = some alarm.cluster

private theorem attached_fresh (policies : Policies) (background : Bool) :
    Attached { policies, background } where
  working := by
    intro ref cluster present
    cases present
  timers := nofun

/-- A loop works only for a configured cluster; so with its timers everything that is
pending belongs to one. -/
theorem Attached.registered (attached : router.Attached) (looped : ∀ id, router.Looped id)
    {alarm : Alarm} (pending : alarm ∈ router.agenda) :
    router.registeredRef? alarm.cluster.id = some alarm.cluster := by
  cases wakeup : alarm.wakeup.loop? with
  | none => exact attached.timers alarm pending wakeup
  | some loop =>
      have belongs := (belongsToLoop_iff alarm.cluster loop alarm).2 ⟨rfl, wakeup⟩
      by_contra unnamed
      have idle : ¬ router.Runs alarm.cluster loop := fun runs =>
        unnamed ((looped alarm.cluster.id).sole alarm.cluster loop rfl runs).1
      have own : alarm ∈ router.alarmsOf alarm.cluster loop :=
        List.mem_filter.2 ⟨pending, belongs⟩
      rw [(looped alarm.cluster.id).idle alarm.cluster loop rfl idle] at own
      cases own

theorem Attached.follow (attached : before.Attached)
    (registered : ∀ id, after.registeredRef? id = before.registeredRef? id)
    (clusters : ∀ ref cluster, after.cluster? ref = some cluster →
      ∃ former, before.cluster? ref = some former ∧ cluster.shutDown = former.shutDown)
    (timers : ∀ alarm ∈ after.agenda, alarm.wakeup.loop? = none →
      alarm ∈ before.agenda ∨
        ∃ cluster,
          before.cluster? alarm.cluster = some cluster ∧ cluster.shutDown = false) :
    after.Attached where
  working := by
    intro ref cluster present working
    rcases clusters ref cluster present with ⟨former, there, kept⟩
    rw [registered]
    exact attached.working ref former there (kept.symm.trans working)
  timers := by
    intro alarm pending timer
    rw [registered]
    rcases timers alarm pending timer with old | ⟨cluster, there, working⟩
    · exact attached.timers alarm old timer
    · exact attached.working alarm.cluster cluster there working

theorem Attached.sameButLoops (attached : before.Attached)
    (same : SameButLoops before after)
    (fewer : ∀ alarm ∈ after.agenda, alarm.wakeup.loop? = none → alarm ∈ before.agenda) :
    after.Attached := by
  refine attached.follow same.registeredRef? (fun ref cluster present => ?_)
    fun alarm pending timer => .inl (fewer alarm pending timer)
  rcases same.cluster? present with ⟨former, there, alike⟩
  exact ⟨former, there, (congrArg Cluster.shutDown alike :)⟩

/-! Configuring. -/

theorem Attached.updateProbing (attached : router.Attached) (ref : ClusterRef)
    (model : ClusterModel) (previous : Option ClusterModel) :
    (router.updateProbing ref model previous).value.Attached := by
  have moves : Moves router.policies router _ :=
    moves_updateProbing router ref model previous
  exact attached.sameButLoops (sameButLoops_updateProbing router ref model previous)
    fun _ pending timer => moves.mem_agenda pending timer

theorem Attached.setCluster (attached : router.Attached) {former cluster : Cluster}
    (present : router.cluster? ref = some former)
    (kept : cluster.shutDown = former.shutDown) :
    (router.setCluster ref cluster).Attached := by
  refine attached.follow (fun _ => rfl) (fun other found there => ?_)
    fun _ pending _ => .inl pending
  rw [cluster?_setCluster present] at there
  split at there
  · rename_i here
    cases there
    exact ⟨former, here ▸ present, kept⟩
  · exact ⟨found, there, rfl⟩

theorem Attached.addCluster (attached : router.Attached) (known : Known policies router)
    {cluster : Cluster} (nobody : router.registered? cluster.id = none) :
    (router.addCluster cluster).1.Attached := by
  -- What was configured before has another id.
  have kept : ∀ {ref : ClusterRef}, router.registeredRef? ref.id = some ref →
      (router.addCluster cluster).1.registeredRef? ref.id = some ref := by
    intro ref named
    rcases known.registered ref.id ref named with ⟨found, present, -⟩
    rw [registeredRef?_addCluster, if_neg, named]
    intro here
    rw [← here, registered?_iff.2 ⟨named, present⟩] at nobody
    cases nobody
  constructor
  · intro ref found there working
    rw [cluster?_addCluster] at there
    split at there
    · rename_i new
      rw [registeredRef?_addCluster, new]
      exact if_pos rfl
    · exact kept (attached.working ref found there working)
  · intro alarm pending timer
    exact kept (attached.timers alarm pending timer)

theorem Attached.install (attached : router.Attached) (known : Known policies router)
    (model : ClusterModel) : (router.install model).value.Attached := by
  unfold Router.install
  split
  · rename_i ref former found
    have applied := attached.setCluster (registered?_iff.1 found).2
      (Cluster.shutDown_applyModel former model)
    exact applied.updateProbing ref model _
  · rename_i nobody
    have unnamed :
        router.registered? (applyModel (.ofModel model) model).value.id = none := by
      rw [id_applyModel]
      exact nobody
    exact (attached.addCluster known unnamed).updateProbing _ model none

theorem Attached.configure (attached : router.Attached) (known : Known policies router)
    (config : ClusterConfig) : (router.configure config).value.1.Attached := by
  unfold Router.configure
  split
  · exact attached
  · exact attached.install known _

/-! Removing. -/

theorem withoutLoops_remove (named : router.registeredRef? id = some ref)
    {other : ClusterRef} (different : other ≠ ref) :
    ((router.remove id).value.1.cluster? other).map Cluster.withoutLoops =
      (router.cluster? other).map Cluster.withoutLoops := by
  let unregistered : Router := { router with registered := router.registered.erase id }
  have stopped := sameButLoops_stopProbing unregistered ref
  have cancelled := sameButLoops_cancelLoops (unregistered.stopProbing ref).value ref
  have removed : (router.remove id).value.1 =
      ((unregistered.stopProbing ref).value.shutDown ref).value := by
    simp only [remove, named, Traced.value_bind, Traced.value_pure]
    rfl
  rw [removed, cluster?_shutDown, if_neg different]
  exact (stopped.trans cancelled).clusters other

theorem Attached.remove (attached : router.Attached) (known : Known policies router)
    (id : String) : (router.remove id).value.1.Attached := by
  cases named : router.registeredRef? id with
  | none =>
      rw [remove_of_unnamed named]
      exact attached
  | some removed =>
      have here := id_of_registeredRef? named
      rcases known.registered id removed named with ⟨cluster, present, -⟩
      have gone := gone_remove named (Option.isSome_of_eq_some present)
      -- Under the id nothing but the cluster that is removed was configured.
      have kept : ∀ {ref : ClusterRef}, router.registeredRef? ref.id = some ref →
          ref ≠ removed →
          (router.remove id).value.1.registeredRef? ref.id = some ref := by
        intro ref alsoNamed different
        by_cases same : id = ref.id
        · rw [← same, named, Option.some.injEq] at alsoNamed
          exact absurd alsoNamed.symm different
        · exact (untouched_remove router same).registeredRef?.trans alsoNamed
      constructor
      · intro ref found there working
        by_cases same : ref = removed
        · have closed := gone.shutDown
          rw [← same, isShutDown_of_cluster? there, working] at closed
          cases closed
        · have former := withoutLoops_remove named same
          rw [there, Option.map_some] at former
          rcases Option.map_eq_some_iff.1 former.symm with ⟨before, alsoThere, alike⟩
          have alsoWorking : before.shutDown = false :=
            (congrArg Cluster.shutDown alike :).trans working
          exact kept (attached.working ref before alsoThere alsoWorking) same
      · intro alarm pending timer
        have moves : Moves router.policies router _ := moves_remove router id
        exact kept (attached.timers alarm (moves.mem_agenda pending timer) timer)
          (gone.silent alarm pending)

/-! Requests, timers and probes. -/

theorem mem_agenda_observe {record : Nat} {outcome : Outcome} {alarm : Alarm}
    (pending : alarm ∈ (router.observe ref record outcome).value.agenda) :
    alarm ∈ router.agenda ∨
      ∃ cluster exclusion, router.cluster? ref = some cluster ∧ cluster.shutDown = false ∧
        (cluster.observe router.now record outcome).value.2 = some exclusion ∧
        alarm =
          { due := router.now + exclusion.period
            cluster := ref
            wakeup := .reactivate exclusion } := by
  have heard := heard_observe router ref record outcome
  generalize (router.observe ref record outcome).value = next at heard pending
  cases heard with
  | absent => exact .inl pending
  | settled => exact .inl pending
  | @timed cluster exclusion present began _ working =>
      rcases List.mem_append.1 pending with old | new
      · exact .inl old
      · exact .inr ⟨cluster, exclusion, present, working, began, List.mem_singleton.1 new⟩
  | untimed => exact .inl pending

end Router

namespace Scene

variable {policies : Policies} {background : Bool} {scene : Scene}

theorem reported_of_timer (known : Router.Known policies scene.router)
    (choosing : policies.Choosing) {operation : Operation} {alarm : Alarm}
    (pending : alarm ∈ (scene.perform operation).value.router.agenda)
    (timer : alarm.wakeup.loop? = none) :
    alarm ∈ scene.router.agenda ∨
      ∃ lease outcome, scene.router.reported? operation = some (lease, outcome) ∧
        alarm ∈
          (scene.router.observe lease.cluster lease.record outcome).value.agenda := by
  cases reported : scene.router.reported? operation with
  | none =>
      rcases moves_of_not_reported known choosing reported with ⟨middle, moves, same⟩
      rw [same.agenda] at pending
      exact .inl (moves.mem_agenda pending timer)
  | some report =>
      rcases report with ⟨lease, outcome⟩
      rw [(sameHealth_reported reported).agenda] at pending
      exact .inr ⟨lease, outcome, rfl, pending⟩

private theorem attached_perform (sound : Router.Sound policies background scene.router)
    (choosing : policies.Choosing) (attached : scene.router.Attached)
    (operation : Operation) :
    (scene.perform operation).value.router.Attached := by
  have known := sound.known
  cases reconfigures : operation.reconfigures with
  | true =>
      refine (scene.reconfigured_related
        (fun before after : Router => Router.Known policies before ∧ before.Attached →
          Router.Known policies after ∧ after.Attached)
        (fun _ => id) (fun first last both => last (first both))
        (fun router config both => ?_) (fun router id both => ?_) reconfigures
        ⟨known, attached⟩).2
      · exact ⟨both.1.moves (Router.moves_configure both.1 config),
          both.2.configure both.1 config⟩
      · exact ⟨both.1.moves (Router.moves_remove router id), both.2.remove both.1 id⟩
  | false =>
      have same : Router.SameOutline scene.router _ := sameOutline_perform reconfigures
      refine attached.follow same.registeredRef? (fun ref cluster present => ?_)
        fun alarm pending timer => ?_
      · rcases same.cluster? present with ⟨former, there, alike⟩
        exact ⟨former, there, (congrArg Cluster.shutDown alike :)⟩
      · rcases reported_of_timer known choosing pending timer with
          old | ⟨lease, outcome, -, set⟩
        · exact .inl old
        · rcases Router.mem_agenda_observe set with
            old | ⟨cluster, _, present, working, -, rfl⟩
          · exact .inl old
          · exact .inr ⟨cluster, present, working⟩

theorem attached_after (choosing : policies.Choosing) (background : Bool)
    (run : List Operation) : ((fresh policies background).after run).router.Attached := by
  induction run with
  | nil => exact Router.attached_fresh policies background
  | cons operation earlier induction =>
      exact attached_perform (sound_after policies background earlier) choosing
        induction operation

end Scene

end Gateway
