import Gateway.Proofs.Probing.Batch
import Gateway.Proofs.Probing.Punctuality

namespace Gateway

/-! The ticks of a probe loop. A tick asks every destination that is configured when it
starts, and unless it has all the answers it changes nothing. -/

/-! The destinations of a configuration are the candidates of its cluster. -/

private theorem Cluster.Enrolled.entries_of_candidates {cluster : Cluster}
    (enrolled : cluster.Enrolled) :
    (cluster.candidates cluster.current.values).map Candidate.entry =
      cluster.model.config.destinations.entries := by
  have listed : ∀ names : List (String × Nat),
      (∀ entry ∈ names, cluster.current.get? entry.1 = some entry.2) →
      ((cluster.candidates (names.map Prod.snd)).map Candidate.entry).map Prod.fst =
        names.map Prod.fst ∧
      ∀ entry ∈ (cluster.candidates (names.map Prod.snd)).map Candidate.entry,
        cluster.model.config.destinations.get? entry.1 = some entry.2 := by
    intro names named
    induction names with
    | nil => exact ⟨rfl, List.forall_mem_nil _⟩
    | cons name rest induction =>
        rcases name with ⟨id, number⟩
        rcases List.forall_mem_cons.1 named with ⟨first, others⟩
        rcases induction others with ⟨names, configured⟩
        rcases enrolled.record id number first with ⟨destination, stored, rfl, listed⟩
        have found :
            cluster.candidate? number = some { record := number, destination } := by
          rw [candidate?, stored]
          rfl
        have all : cluster.candidates (number :: rest.map Prod.snd) =
            { record := number, destination } :: cluster.candidates (rest.map Prod.snd) :=
          List.filterMap_cons_some found
        rw [List.map_cons, List.map_cons, all]
        exact ⟨congrArg (destination.id :: ·) names,
          List.forall_mem_cons.2 ⟨listed, configured⟩⟩
  rcases listed cluster.current.entries fun entry member =>
    (Keyed.get?_eq_some_iff _ _ _).2 member with ⟨names, configured⟩
  exact Keyed.eq_entries_of_keys (names.trans enrolled.keys) configured

namespace Work

variable {policies : Policies} {work : Work} {loop : Nat}

def told (work : Work) : List Event :=
  (work.scene.wake work.alarm).events

def probes (work : Work) : List Event :=
  if work.isTick then (work.scene.send work.alarm.cluster).events else []

def opening (work : Work) : List Event :=
  match work.alarm.wakeup with
  | .beginProbing _ => [.notice (.concerning work.alarm.cluster.id .probingStarted)]
  | _ => []

def closing (work : Work) (loop : Nat) : List Event :=
  match work.sent? with
  | none => []
  | some (policy, batch) =>
      if batch.duration = 0 then
        (work.scene.router.settle work.alarm.cluster loop policy batch.outcome).events
      else []

/-- Work that is done in a state which a run can reach. -/
inductive Arises (policies : Policies) : Work → Prop
  | rung {scene : Scene} {position : Nat} {alarm : Alarm}
      (sound : Router.Sound policies true scene.router)
      (pending : scene.router.agenda[position]? = some alarm) :
      Arises policies (scene.work position alarm)

private theorem arises_of_beats {scene next : Scene} {works : List Work}
    (beats : Beats scene works next) (sound : Router.Sound policies true scene.router) :
    ∀ work ∈ works, work.Arises policies := by
  induction beats with
  | refl => exact List.forall_mem_nil _
  | tail earlier beat induction =>
      refine List.forall_mem_append.2 ⟨induction, ?_⟩
      cases beat with
      | rung pending =>
          exact List.forall_mem_singleton.2 (.rung (earlier.sound sound) pending)
      | calm => exact List.forall_mem_nil _
      | passed => exact List.forall_mem_nil _

theorem arises_of_worked (policies : Policies) (run : List Operation) :
    ∀ work ∈ (Scene.fresh policies true).worked run, work.Arises policies := by
  induction run with
  | nil => exact List.forall_mem_nil _
  | cons operation earlier induction =>
      refine List.forall_mem_append.2 ⟨induction, ?_⟩
      cases reconfigures : operation.reconfigures with
      | false =>
          exact arises_of_beats (Scene.beats_perform reconfigures)
            (Scene.sound_after policies true earlier)
      | true =>
          rw [Scene.workOf_reconfiguration reconfigures]
          exact List.forall_mem_nil _

structure Serves (policies : Policies) (work : Work) (cluster : Cluster)
    (policy : ActivePolicy) : Prop where
  present : work.cluster? = some cluster
  active : cluster.model.active = some policy
  enrolled : cluster.Enrolled
  wellFormed : cluster.model.WellFormed

theorem Arises.serves (arises : work.Arises policies)
    (own : work.alarm.wakeup.loop? = some loop) :
    ∃ cluster policy, work.Serves policies cluster policy := by
  cases arises with
  | @rung scene position alarm sound pending =>
      have belongs := (Router.belongsToLoop_iff alarm.cluster loop alarm).2 ⟨rfl, own⟩
      have runs :=
        Scene.runs_of_pending sound.looped (List.mem_of_getElem? pending) belongs
      rcases (sound.looped _).sole alarm.cluster loop rfl runs with ⟨named, kept⟩
      rcases Option.bind_eq_some_iff.1 runs with ⟨cluster, present, -⟩
      have found := Router.registered?_iff.2 ⟨named, present⟩
      have orderly := sound.orderly alarm.cluster.id
      have probed := (orderly.probed _ cluster found).1 (Option.isSome_of_eq_some kept)
      rcases Option.isSome_iff_exists.1 probed.2 with ⟨policy, active⟩
      exact ⟨cluster, policy,
        { present
          active
          enrolled := (orderly.toEntered.orderly _ cluster found).toEnrolled
          wellFormed :=
            Policies.wellFormed_of_resolve (sound.known.models _ cluster present) }⟩

/-- No other work of a loop of the cluster is pending, in whatever incarnation. -/
theorem Arises.alone (arises : work.Arises policies)
    (own : work.alarm.wakeup.loop? = some loop) :
    ∀ other ∈ work.scene.router.agenda, other.cluster.id = work.alarm.cluster.id →
      other.wakeup.loop? = none := by
  cases arises with
  | @rung scene position alarm sound pending =>
      intro other later here
      by_contra looping
      rcases Option.ne_none_iff_exists'.1 looping with ⟨number, wakeup⟩
      have member : other ∈ scene.router.agenda.eraseIdx position := later
      have belongs := (Router.belongsToLoop_iff alarm.cluster loop alarm).2 ⟨rfl, own⟩
      have alsoBelongs :=
        (Router.belongsToLoop_iff other.cluster number other).2 ⟨rfl, wakeup⟩
      have runs :=
        Scene.runs_of_pending sound.looped (List.mem_of_getElem? pending) belongs
      have alsoRuns :=
        Scene.runs_of_pending sound.looped (List.mem_of_mem_eraseIdx member)
        alsoBelongs
      have looped := sound.looped alarm.cluster.id
      rcases looped.unique rfl runs here alsoRuns with ⟨cluster, same⟩
      rw [cluster, same] at alsoBelongs
      rcases looped.waiting alarm.cluster loop rfl runs with ⟨awaited, sole⟩
      have silent := (filter_eraseIdx_of_sole pending belongs sole).2
      rw [List.filter_eq_nil_iff] at silent
      exact silent other member alsoBelongs

/-- What a tick comes to. Every destination that is configured when it starts is sent one
probe, with the settings of that moment; only a crash at once can keep the later ones from
being sent. The tick lasts as long as its slowest probe, or until the first crash. -/
structure Tick (work : Work) (cluster : Cluster) (policy : ActivePolicy) (batch : Batch) :
    Prop where
  sent : work.sent? = some (policy, batch)
  probes : work.probes <+: cluster.model.config.destinations.entries.map
    cluster.model.config.healthCheck.active.probeOf
  all : batch.outcome ≠ .crashed → work.probes =
    cluster.model.config.destinations.entries.map
      cluster.model.config.healthCheck.active.probeOf
  completes : (∀ entry ∈ cluster.model.config.destinations.entries,
      (cluster.model.config.healthCheck.active.answerOf work.scene.script entry).outcome ≠
        none) →
    Batch.Completes (cluster.model.config.healthCheck.active.answersOf work.scene.script
      (cluster.candidates cluster.current.values)) batch
  crashes : (∃ entry ∈ cluster.model.config.destinations.entries,
      (cluster.model.config.healthCheck.active.answerOf work.scene.script entry).outcome =
        none) →
    Batch.Crashes (cluster.model.config.healthCheck.active.answersOf work.scene.script
      (cluster.candidates cluster.current.values)) batch

theorem Serves.sending {cluster : Cluster} {policy : ActivePolicy}
    (serves : work.Serves policies cluster policy) (starts : work.isTick = true) :
    let sending := sendProbes cluster.model.config.healthCheck.active work.scene.script
      (cluster.candidates cluster.current.values)
    work.sent? = some (policy, sending.value.1) ∧ work.probes = sending.events := by
  have present : work.scene.router.cluster? work.alarm.cluster = some cluster :=
    serves.present
  constructor
  · simp only [sent?, starts, if_true, Scene.send, present, serves.active,
      Traced.value_bind, Traced.value_pure]
  · simp only [probes, starts, if_true, Scene.send, present, serves.active,
      Traced.events_bind, Traced.events_pure, List.append_nil]

theorem Serves.tick {cluster : Cluster} {policy : ActivePolicy}
    (serves : work.Serves policies cluster policy) (starts : work.isTick = true) :
    ∃ batch, work.Tick cluster policy batch := by
  let settings := cluster.model.config.healthCheck.active
  let candidates := cluster.candidates cluster.current.values
  have entries :
      candidates.map Candidate.entry = cluster.model.config.destinations.entries :=
    serves.enrolled.entries_of_candidates
  have distinct : (candidates.map Candidate.id).Nodup := by
    have keys : candidates.map Candidate.id =
        cluster.model.config.destinations.entries.map Prod.fst := by
      rw [← entries, List.map_map]
      rfl
    rw [keys]
    exact Cluster.map_fst_distinct _
  rcases serves.sending starts with ⟨sent, told⟩
  have batch : (sendProbes settings work.scene.script candidates).value.1 =
      .ofAnswers (settings.answersOf work.scene.script candidates) :=
    batch_sendProbes work.scene.script distinct
  have events := @events_sendProbes settings work.scene.script candidates
  have named : candidates.map (fun candidate => settings.probeOf candidate.entry) =
      cluster.model.config.destinations.entries.map settings.probeOf := by
    rw [← entries, List.map_map]
    rfl
  dsimp only at events
  rw [named] at events
  refine ⟨_, sent, ?_, ?_, fun answered => ?_, fun crash => ?_⟩
  · rw [told]
    exact events.1
  · rw [told]
    exact events.2
  · rw [batch]
    refine Batch.completes_ofAnswers fun record answer member => ?_
    rcases List.mem_map.1 member with ⟨candidate, there, same⟩
    cases same
    exact answered candidate.entry (entries ▸ List.mem_map_of_mem there)
  · rw [batch]
    refine Batch.crashes_ofAnswers ?_
    rcases crash with ⟨entry, member, silent⟩
    rw [← entries] at member
    rcases List.mem_map.1 member with ⟨candidate, there, rfl⟩
    exact ⟨candidate.record, _, List.mem_map.2 ⟨candidate, there, rfl⟩, silent⟩

theorem told_tick (own : work.alarm.wakeup.loop? = some loop)
    (starts : work.isTick = true) :
    work.told = work.opening ++ work.probes ++ work.closing loop := by
  have ticking : ∀ {scene : Scene} {ref : ClusterRef}, (scene.tick ref loop).events =
      (scene.send ref).events ++ (match (scene.send ref).value.2 with
        | none => []
        | some (policy, batch) =>
            if batch.duration = 0 then
              (scene.router.settle ref loop policy batch.outcome).events
            else []) := by
    intro scene ref
    have same := Scene.router_send scene ref
    simp only [Scene.tick, Traced.events_bind]
    generalize (scene.send ref).value = result at same ⊢
    rcases result with ⟨after, sent⟩
    dsimp only at same ⊢
    rw [same]
    cases sent with
    | none => rfl
    | some answer =>
        dsimp only
        split
        · simp only [Traced.events_bind, Traced.events_pure, List.append_nil]
        · rfl
  rcases work with ⟨scene, due, ref, wakeup⟩
  cases wakeup with
  | reactivate => cases starts
  | settle => cases starts
  | beginProbing number =>
      cases own
      simp only [told, Scene.wake, Traced.events_bind, ticking]
      rfl
  | tick number =>
      cases own
      exact ticking

def Harmless (work : Work) : Prop :=
  ∀ ref record,
    work.after.router.healthOf ref record = work.scene.router.healthOf ref record

private theorem healthOf_scheduleTick (router : Router) (ref : ClusterRef) (loop : Nat) :
    (router.scheduleTick ref loop).healthOf = router.healthOf := by
  unfold Router.scheduleTick
  split <;> rfl

theorem healthOf_settle_of_crash (router : Router) (ref : ClusterRef) (loop : Nat)
    (policy : ActivePolicy) :
    (router.settle ref loop policy .crashed).value.healthOf = router.healthOf :=
  healthOf_scheduleTick router ref loop

theorem harmless_of_crash {policy : ActivePolicy}
    (crashed : work.alarm.wakeup = .settle loop policy .crashed) : work.Harmless := by
  rcases work with ⟨scene, due, ref, wakeup⟩
  intro other record
  cases crashed
  exact congrFun (congrFun (healthOf_settle_of_crash scene.router ref loop policy) other)
    record

/-- A tick that crashes, or whose probes take time, changes nobody's health when it
starts. -/
theorem harmless_of_unjudged (starts : work.isTick = true) {policy : ActivePolicy}
    {batch : Batch} (sent : work.sent? = some (policy, batch))
    (unjudged : batch.outcome = .crashed ∨ batch.duration ≠ 0) : work.Harmless := by
  have ticking : ∀ {scene : Scene} {ref : ClusterRef} {loop : Nat},
      (scene.send ref).value.2 = some (policy, batch) →
      (scene.tick ref loop).value.router.healthOf = scene.router.healthOf := by
    intro scene ref loop sent
    have same := Scene.router_send scene ref
    simp only [Scene.tick, Traced.value_bind]
    generalize (scene.send ref).value = result at same sent ⊢
    rcases result with ⟨after, answer⟩
    dsimp only at same sent ⊢
    subst sent
    rw [same]
    dsimp only
    split
    · rename_i atOnce
      rcases unjudged with crashed | lasting
      · rw [crashed]
        exact healthOf_settle_of_crash _ ref loop policy
      · exact absurd atOnce lasting
    · rfl
  rw [sent?, if_pos starts] at sent
  rcases work with ⟨scene, due, ref, wakeup⟩
  intro other record
  cases wakeup with
  | reactivate => cases starts
  | settle => cases starts
  | beginProbing number => exact congrFun (congrFun (ticking sent) other) record
  | tick number => exact congrFun (congrFun (ticking sent) other) record

end Work

end Gateway
