import Gateway.Proofs.Exclusions.Timers
import Gateway.Proofs.Router.Ringing
import Gateway.Proofs.Snapshots

namespace Gateway

/-! The end of an exclusion. Its timer is the only one that can end it, and does so
when the period is over; the timers of earlier exclusions do nothing any more. Generations
are words: where it matters that no two exclusions share one, a record may not have been
excluded more often than words can tell. -/

namespace Scene

variable {scene : Scene}

theorem router_ringAt {position : Nat} {alarm : Alarm} {exclusion : Exclusion}
    (pending : scene.router.agenda[position]? = some alarm)
    (wakeup : alarm.wakeup = .reactivate exclusion) :
    (scene.ringAt position).value.router =
      (scene.rung position alarm).router.mapCluster alarm.cluster
        (fun cluster => (cluster.reactivate exclusion).value) := by
  simp only [ringAt, pending, wake, wakeup, Traced.value_bind, Traced.value_pure,
    Router.value_withCluster]
  rfl

private theorem now_ringAt {position : Nat} {alarm : Alarm} {exclusion : Exclusion}
    (pending : scene.router.agenda[position]? = some alarm)
    (wakeup : alarm.wakeup = .reactivate exclusion) :
    alarm.due ≤ (scene.ringAt position).value.router.now := by
  have fields := Router.mapCluster_fields (scene.rung position alarm).router alarm.cluster
    (fun cluster => (cluster.reactivate exclusion).value)
  rcases fields with ⟨clusters, same⟩
  rw [router_ringAt pending wakeup, same]
  exact Nat.le_max_right _ _

private theorem cluster?_ringAt {position : Nat} {alarm : Alarm} {exclusion : Exclusion}
    {cluster : Cluster} (present : scene.router.cluster? alarm.cluster = some cluster)
    (pending : scene.router.agenda[position]? = some alarm)
    (wakeup : alarm.wakeup = .reactivate exclusion) :
    (scene.ringAt position).value.router.cluster? alarm.cluster =
      some (cluster.reactivate exclusion).value := by
  have kept : (scene.rung position alarm).router.cluster? alarm.cluster =
      scene.router.cluster? alarm.cluster := rfl
  rw [router_ringAt pending wakeup, Router.cluster?_mapCluster, if_pos rfl, kept, present,
    Option.map_some]

/-- Whether a timer is out of date: the record recovered, or was excluded again. -/
def OutOfDate (scene : Scene) (alarm : Alarm) (exclusion : Exclusion) : Prop :=
  ¬ ((scene.router.healthOf alarm.cluster exclusion.record).exclusions =
    exclusion.generation ∧
    (scene.router.healthOf alarm.cluster exclusion.record).passive = .unhealthy)

theorem cluster?_ringAt_of_outOfDate {position : Nat} {alarm : Alarm}
    {exclusion : Exclusion} (pending : scene.router.agenda[position]? = some alarm)
    (wakeup : alarm.wakeup = .reactivate exclusion)
    (old : scene.OutOfDate alarm exclusion) (ref : ClusterRef) :
    (scene.ringAt position).value.router.cluster? ref = scene.router.cluster? ref := by
  have kept : ∀ other, (scene.rung position alarm).router.cluster? other =
      scene.router.cluster? other := fun _ => rfl
  rw [router_ringAt pending wakeup, Router.cluster?_mapCluster, kept, kept]
  split
  · rename_i here
    subst here
    cases present : scene.router.cluster? alarm.cluster with
    | none => rfl
    | some cluster =>
        have same := Router.healthOf_of_cluster? present exclusion.record
        unfold OutOfDate at old
        rw [same] at old
        rw [Option.map_some, Cluster.value_reactivate_of_stale old]
  · rfl

theorem healthOf_ringAt {position : Nat} {alarm : Alarm} {exclusion : Exclusion}
    (pending : scene.router.agenda[position]? = some alarm)
    (wakeup : alarm.wakeup = .reactivate exclusion)
    (timely : ¬ scene.OutOfDate alarm exclusion) :
    (scene.ringAt position).value.router.healthOf alarm.cluster exclusion.record =
      { scene.router.healthOf alarm.cluster exclusion.record with
        window := .empty
        passive := .healthy } := by
  have current := Classical.not_not.1 timely
  have kept : (scene.rung position alarm).router.healthOf alarm.cluster exclusion.record =
      scene.router.healthOf alarm.cluster exclusion.record := rfl
  rw [router_ringAt pending wakeup, Router.healthOf_reactivate, kept, if_pos]
  exact ⟨rfl, rfl, current⟩

private theorem mem_timers_of_timely {position : Nat} {alarm : Alarm}
    {exclusion : Exclusion} (pending : scene.router.agenda[position]? = some alarm)
    (wakeup : alarm.wakeup = .reactivate exclusion)
    (timely : ¬ scene.OutOfDate alarm exclusion) :
    alarm ∈ scene.router.timers alarm.cluster exclusion.record := by
  have current := (Classical.not_not.1 timely).1
  refine List.mem_filter.2 ⟨List.mem_of_getElem? pending, (Alarm.ends_iff _ _ _ _).2 ?_⟩
  exact ⟨rfl, exclusion.period, by rw [wakeup, current]⟩

/-- How the timers of a record go, given its exclusions so far, the latest first. -/
structure Timekeeping (scene : Scene) (ref : ClusterRef) (record : Nat)
    (log : List ExclusionStart) : Prop where
  /-- A record that is excluded has a timer that is due when the period is ended, and no
  other timer. -/
  single : (scene.router.healthOf ref record).passive = .unhealthy →
    ∃ start alarm, Router.SetFor (scene.router.timers ref record) log start alarm
  /-- A timer that is out of date changes no cluster, whenever it rings. -/
  stale : ∀ position alarm exclusion, scene.router.agenda[position]? = some alarm →
    alarm.wakeup = .reactivate exclusion → alarm.cluster = ref →
      exclusion.record = record →
    scene.OutOfDate alarm exclusion →
      ∀ other, (scene.perform (.ring position)).value.router.cluster? other =
        scene.router.cluster? other
  /-- Any other timer ends the exclusion, a full period after it began. -/
  timely : ∀ position alarm exclusion, scene.router.agenda[position]? = some alarm →
    alarm.wakeup = .reactivate exclusion → alarm.cluster = ref →
      exclusion.record = record →
    ¬ scene.OutOfDate alarm exclusion →
      (log.length < 2 ^ 64 → ∃ start, log.head? = some start ∧
        start.since + start.period ≤ (scene.perform (.ring position)).value.router.now) ∧
      ((scene.perform (.ring position)).value.router.healthOf ref record).passive =
        .healthy ∧
      ((scene.perform (.ring position)).value.router.healthOf ref record).window =
        { origin := none, buckets := [], total := 0, failures := 0 } ∧
      ∃ cluster,
        (scene.perform (.ring position)).value.router.cluster? ref = some cluster ∧
        cluster.publish.value = cluster
  /-- An exclusion lasts until its period is over, as long as only time passes. -/
  lasting : ∀ start limit, (scene.router.healthOf ref record).passive = .unhealthy →
    log.head? = some start → log.length < 2 ^ 64 →
    max scene.router.now limit < start.since + start.period →
      ((scene.perform (.advance limit)).value.router.healthOf ref record).passive =
        .unhealthy
  /-- And no longer than that. -/
  ending : ∀ start limit, (scene.router.healthOf ref record).passive = .unhealthy →
    log.head? = some start → start.since + start.period ≤ limit →
      ((scene.perform (.advance limit)).value.router.healthOf ref record).passive =
        .healthy

variable {policies : Policies} {log : ClusterRef → Nat → List ExclusionStart}

theorem unhealthy_advance (known : Router.Known policies scene.router)
    (builtin : policies.active.entries = ActivePolicy.builtin)
    (timed : scene.router.Timed log) {ref : ClusterRef} {record : Nat}
    (working : scene.router.isShutDown ref = false)
    (unhealthy : (scene.router.healthOf ref record).passive = .unhealthy)
    {start : ExclusionStart} (began : (log ref record).head? = some start)
    (few : (log ref record).length < 2 ^ 64) {limit : Nat}
    (early : max scene.router.now limit < start.since + start.period) :
    ((scene.advance limit).value.router.healthOf ref record).passive = .unhealthy := by
  have now := (settled_advance scene limit).now
  rcases (moves_advance known limit).lapse builtin ref record with still | ended
  · exact still.passive.trans unhealthy
  · rcases timed.timed ref record working unhealthy with ⟨other, alarm, set⟩
    rcases ended.due with ⟨rang, timer, rung⟩
    have same := set.latest
    rw [began, Option.some.injEq] at same
    rw [set.only few, List.mem_singleton] at timer
    rw [timer, set.due, ← same] at rung
    omega

theorem healthy_advance (known : Router.Known policies scene.router)
    (builtin : policies.active.entries = ActivePolicy.builtin)
    (timed : scene.router.Timed log) {ref : ClusterRef} {record : Nat}
    (configured : scene.router.registeredRef? ref.id = some ref)
    (working : scene.router.isShutDown ref = false)
    (unhealthy : (scene.router.healthOf ref record).passive = .unhealthy)
    {start : ExclusionStart} (began : (log ref record).head? = some start) {limit : Nat}
    (late : start.since + start.period ≤ limit) :
    ((scene.advance limit).value.router.healthOf ref record).passive = .healthy := by
  have settled := settled_advance scene limit
  have moves := moves_advance known limit
  cases after : ((scene.advance limit).value.router.healthOf ref record).passive with
  | healthy => rfl
  | unhealthy =>
      -- The timer of the exclusion would still be pending, though it was due.
      have still := (moves.lapse builtin ref record).unhealthy after
      rcases timed.timed ref record working unhealthy with ⟨other, alarm, set⟩
      have same := set.latest
      rw [began, Option.some.injEq] at same
      have named :
          (scene.advance limit).value.router.registeredRef? ref.id = some ref := by
        rw [Router.registeredRef?, settled.registered]
        exact configured
      rcases (known.moves moves).registered ref.id ref named with
        ⟨cluster, present, atWork⟩
      have kept :=
        (still.1.timers ((Router.isShutDown_of_cluster? present).trans atWork) after).2
      have pending : alarm ∈ (scene.advance limit).value.router.timers ref record := by
        rw [kept]
        exact set.pending
      have later := settled.agenda alarm (List.mem_filter.1 pending).1
      rw [set.due, ← same] at later
      omega

/-- On a cluster that is configured every exclusion has one timer, which ends it when its
period is over, neither earlier nor later; no other timer does anything. An exclusion
never lasts longer than its period. That it lasts as long, and that its timer is the only
one, holds as long as the record was excluded less than 2 ^ 64 times, which is as far as
the generations of timers can be told apart. -/
theorem timekeeping_after (source : RandomSource) (protector : Protector)
    (run : List Operation) (ref : ClusterRef)
    (configured :
      ((fresh (.builtin source protector) true).after run).router.registeredRef?
      ref.id = some ref) (record : Nat) :
    Timekeeping ((fresh (.builtin source protector) true).after run) ref record
      ((fresh (.builtin source protector) true).exclusionLog run ref record) := by
  have known := known_after (Policies.choosing_builtin source protector) true run
  have timed := timed_after source protector run
  have builtin :
      (Policies.builtin source protector).active.entries = ActivePolicy.builtin := rfl
  rcases known.registered ref.id ref configured with ⟨cluster, present, atWork⟩
  have working := (Router.isShutDown_of_cluster? present).trans atWork
  refine ⟨timed.timed ref record working, ?_, ?_, ?_, ?_⟩
  · rintro position alarm exclusion pending wakeup - - old other
    exact cluster?_ringAt_of_outOfDate pending wakeup old other
  · rintro position alarm exclusion pending wakeup rfl rfl timely
    have unhealthy := (Classical.not_not.1 timely).2
    have health := healthOf_ringAt pending wakeup timely
    rcases timed.timed _ _ working unhealthy with ⟨start, timer, set⟩
    refine ⟨fun few => ⟨start, set.latest, ?_⟩, congrArg _ health, congrArg _ health, ?_⟩
    · have same := mem_timers_of_timely pending wakeup timely
      rw [set.only few, List.mem_singleton] at same
      rw [← set.due, ← same]
      exact now_ringAt pending wakeup
    · have ringing := cluster?_ringAt present pending wakeup
      exact ⟨_, ringing,
        publish_after source protector true (.ring position :: run) ringing⟩
  · intro start limit unhealthy began few early
    exact unhealthy_advance known builtin timed working unhealthy began few early
  · intro start limit unhealthy began late
    exact healthy_advance known builtin timed configured working unhealthy began late

/-- A record of a small gateway that is excluded, recovers by three requests that went
well, and is excluded again a second after the first time. -/
def renewedRun : List Operation :=
  .report sampleRef 0 .backendError :: .elapse 1000 ::
    (List.replicate 3 (.report sampleRef 0 .success) ++
      [.report sampleRef 0 .backendError, .configure sampleConfig])

/-- The timer of the first exclusion does not end the second one. -/
theorem timekeeping_after_renewal :
    (sample.after renewedRun).router.registeredRef? sampleRef.id = some sampleRef ∧
      (((sample.after renewedRun).perform (.advance 30999)).value.router.healthOf
        sampleRef 0).passive = .unhealthy ∧
      (((sample.after renewedRun).perform (.advance 31000)).value.router.healthOf
        sampleRef 0).passive = .healthy := by
  have configured :
      (sample.after renewedRun).router.registeredRef? sampleRef.id = some sampleRef := by
    decide +kernel
  have unhealthy :
      ((sample.after renewedRun).router.healthOf sampleRef 0).passive = .unhealthy := by
    decide +kernel
  have log : sample.exclusionLog renewedRun sampleRef 0 =
      [{ since := 1000, period := 30000 }, { since := 0, period := 30000 }] := by
    decide +kernel
  have now : (sample.after renewedRun).router.now = 1000 := by decide +kernel
  have times : Timekeeping (sample.after renewedRun) sampleRef 0
      (sample.exclusionLog renewedRun sampleRef 0) :=
    timekeeping_after _ _ renewedRun sampleRef configured 0
  rw [log] at times
  refine ⟨configured, times.lasting _ 30999 unhealthy rfl (by decide) ?_,
    times.ending _ 31000 unhealthy rfl ?_⟩
  · rw [now]
    decide
  · decide

end Scene

end Gateway
