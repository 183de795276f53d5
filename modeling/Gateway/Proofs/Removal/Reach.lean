import Gateway.Proofs.Probing.Rulings
import Gateway.Proofs.Removal.Grounding

namespace Gateway

/-! How far reports, timers and the results of probes reach. They change the record that
they are about and the lists of its cluster; every other record stays as it is, whatever
id it was given. -/

namespace Cluster

variable {number : Nat}

private theorem getElem?_setHealth_of_ne (cluster : Cluster) {record : Nat}
    (different : number ≠ record) (health : DestinationHealth) :
    (cluster.setHealth record health).records[number]? = cluster.records[number]? :=
  List.getElem?_modify_ne _ _ (Ne.symm different)

private theorem getElem?_observe_of_ne (cluster : Cluster) (now : Nat) {record : Nat}
    (different : number ≠ record) (outcome : Outcome) :
    (cluster.observe now record outcome).value.1.records[number]? =
      cluster.records[number]? := by
  have result := observe_result cluster now record outcome
  generalize (cluster.observe now record outcome).value = observed at result ⊢
  cases result with
  | unheard => rfl
  | unmoved => exact getElem?_setHealth_of_ne cluster different _
  | recovered => exact getElem?_setHealth_of_ne cluster different _
  | excluded =>
      exact (getElem?_setHealth_of_ne _ different _).trans
        (getElem?_setHealth_of_ne cluster different _)

private theorem getElem?_reactivate_of_ne (cluster : Cluster) {exclusion : Exclusion}
    (different : number ≠ exclusion.record) :
    (cluster.reactivate exclusion).value.records[number]? = cluster.records[number]? := by
  unfold reactivate
  split
  · rfl
  · dsimp only
    split
    · exact getElem?_setHealth_of_ne cluster different _
    · rfl

private theorem getElem?_judgeProbe_of_ne (judge : Destination → ProbeOutcome →
    Effect DestinationHealth)
    (state : Cluster × Bool) {result : Nat × ProbeOutcome}
    (different : number ≠ result.1) :
    (judgeProbe judge state result).value.1.records[number]? =
      state.1.records[number]? := by
  rcases state with ⟨cluster, changed⟩
  simp only [judgeProbe]
  split
  · rfl
  · rw [Traced.value_bind]
    split <;> exact getElem?_setHealth_of_ne cluster different _

private theorem getElem?_settleProbes_of_notMem (cluster : Cluster)
    (policy : ActivePolicy) {results : List (Nat × ProbeOutcome)}
    (unlisted : number ∉ results.map Prod.fst) :
    (cluster.settleProbes policy results).value.records[number]? =
      cluster.records[number]? := by
  have judged : ∀ judge (state : Cluster × Bool),
      (Traced.fold (judgeProbe judge) state results).value.1.records[number]? =
        state.1.records[number]? := by
    intro judge
    induction results with
    | nil => exact fun _ => rfl
    | cons result rest induction =>
        rw [List.map_cons, List.mem_cons, not_or] at unlisted
        intro state
        exact (induction unlisted.2 _).trans
          (getElem?_judgeProbe_of_ne judge state unlisted.1)
  unfold settleProbes
  simp only [Traced.value_bind]
  split <;> exact judged _ (cluster, false)

end Cluster

namespace Router

variable {router : Router} {ref : ClusterRef} {record : Nat}

def destination? (router : Router) (ref : ClusterRef)
    (record : Nat) : Option Destination :=
  (router.cluster? ref).bind (fun cluster => cluster.records[record]?)

private theorem destination?_setCluster {target : ClusterRef} {before after : Cluster}
    (present : router.cluster? target = some before)
    (kept : target = ref → after.records[record]? = before.records[record]?) :
    (router.setCluster target after).destination? ref record =
      router.destination? ref record := by
  rw [destination?, cluster?_setCluster present]
  split
  · rename_i here
    rw [destination?, here, present]
    exact kept here.symm
  · rfl

private theorem destination?_mapCluster (router : Router) {target : ClusterRef}
    {change : Cluster → Cluster}
    (kept : target = ref → ∀ cluster : Cluster,
      (change cluster).records[record]? = cluster.records[record]?) :
    (router.mapCluster target change).destination? ref record =
      router.destination? ref record := by
  unfold mapCluster
  split
  · rfl
  · rename_i cluster present
    exact destination?_setCluster present fun here => kept here cluster

/-! Reports and leases. -/

section Leases

variable {lease : Lease} (different : lease ≠ { cluster := ref, record })

include different

private theorem ne_record_of_ne_lease (here : lease.cluster = ref) :
    record ≠ lease.record := by
  rintro rfl
  exact different (here ▸ rfl)

private theorem destination?_observe_of_ne (router : Router) (outcome : Outcome) :
    (router.observe lease.cluster lease.record outcome).value.destination? ref record =
      router.destination? ref record := by
  rcases (heard_observe router lease.cluster lease.record outcome).cases with
    ⟨-, same⟩ | ⟨cluster, agenda, present, same⟩
  · rw [same]
  · rw [same]
    exact destination?_setCluster present fun here =>
      Cluster.getElem?_observe_of_ne cluster _
        (ne_record_of_ne_lease different here) outcome

private theorem destination?_endLease_of_ne {number : Nat}
    (held : router.lease? number = some lease) (outcome : Outcome) :
    (router.endLease number outcome).value.destination? ref record =
      router.destination? ref record := by
  rw [value_endLease held]
  have released : (release (router.observe lease.cluster lease.record outcome).value
      lease).destination? ref record = _ :=
    destination?_mapCluster _ fun here cluster =>
      List.getElem?_modify_ne _ _ (Ne.symm (ne_record_of_ne_lease different here))
  exact released.trans (destination?_observe_of_ne different router outcome)

end Leases

/-! Probes. -/

private theorem destination?_scheduleTick (router : Router) (target : ClusterRef)
    (loop : Nat) :
    (router.scheduleTick target loop).destination? ref record =
      router.destination? ref record := by
  unfold scheduleTick
  split <;> rfl

private theorem destination?_judge (router : Router) {target : ClusterRef}
    {policy : ActivePolicy} {outcome : BatchEnd}
    (unrelated : target = ref → record ∉ outcome.records) :
    (router.judge target policy outcome).value.destination? ref record =
      router.destination? ref record := by
  cases outcome with
  | crashed => rfl
  | completed results =>
      simp only [judge, Traced.value_map, value_withCluster]
      exact destination?_mapCluster router fun here cluster =>
        Cluster.getElem?_settleProbes_of_notMem cluster policy (unrelated here)

private theorem destination?_settle (router : Router) {target : ClusterRef} {loop : Nat}
    {policy : ActivePolicy} {outcome : BatchEnd}
    (unrelated : target = ref → record ∉ outcome.records) :
    (router.settle target loop policy outcome).value.destination? ref record =
      router.destination? ref record := by
  unfold settle
  split <;> exact (destination?_scheduleTick _ target loop).trans
    (destination?_judge router unrelated)

/-! What is set by the work of loops. -/

private theorem mem_agenda_scheduleTick {target : ClusterRef} {loop : Nat} {alarm : Alarm}
    (pending : alarm ∈ (router.scheduleTick target loop).agenda) :
    alarm ∈ router.agenda ∨ alarm.cluster = target ∧ alarm.wakeup = .tick loop := by
  unfold scheduleTick at pending
  split at pending
  · exact .inl pending
  · rcases List.mem_append.1 pending with old | new
    · exact .inl old
    · rw [List.mem_singleton.1 new]
      exact .inr ⟨rfl, rfl⟩

private theorem mem_agenda_settle {target : ClusterRef} {loop : Nat}
    {policy : ActivePolicy} {outcome : BatchEnd} {alarm : Alarm}
    (pending : alarm ∈ (router.settle target loop policy outcome).value.agenda) :
    alarm ∈ router.agenda ∨ alarm.cluster = target ∧ alarm.wakeup = .tick loop := by
  rw [← (sameAgenda_judge router target policy outcome).agenda]
  unfold settle at pending
  split at pending <;> exact mem_agenda_scheduleTick pending

end Router

namespace Scene

variable {scene : Scene} {operation : Operation} {ref : ClusterRef} {record : Nat}

theorem destination?_reported {lease : Lease} {outcome : Outcome}
    (reported : scene.router.reported? operation = some (lease, outcome))
    (different : lease ≠ { cluster := ref, record }) :
    (scene.perform operation).value.router.destination? ref record =
      scene.router.destination? ref record := by
  rcases Router.reported?_cases reported with rfl | ⟨number, ending, held⟩
  · exact Router.destination?_observe_of_ne different scene.router outcome
  · have ended := Router.destination?_endLease_of_ne different held outcome
    rcases router_ending ending with ⟨-, same⟩ | ⟨position, request, serial, -, -, same⟩
    · rw [same]
      exact ended
    · rw [same]
      exact ended

theorem destination?_wake (scene : Scene) {alarm : Alarm}
    (waiting : alarm.wakeup.startsTick = false)
    (unrelated : alarm.cluster = ref → record ∉ alarm.wakeup.records) :
    (scene.wake alarm).value.router.destination? ref record =
      scene.router.destination? ref record := by
  unfold wake
  split
  · rename_i exclusion wakeup
    rw [wakeup] at unrelated
    simp only [Traced.value_bind, Traced.value_pure, Router.value_withCluster]
    exact Router.destination?_mapCluster scene.router fun here cluster =>
      Cluster.getElem?_reactivate_of_ne cluster (List.ne_of_not_mem_cons (unrelated here))
  · rename_i wakeup
    rw [wakeup] at waiting
    cases waiting
  · rename_i wakeup
    rw [wakeup] at waiting
    cases waiting
  · rename_i loop policy outcome wakeup
    rw [wakeup] at unrelated
    exact Router.destination?_settle scene.router unrelated

private theorem destination?_tick (scene : Scene) {target : ClusterRef} {loop : Nat}
    (unrelated : target = ref → ∀ policy batch,
      (scene.send target).value.2 = some (policy, batch) →
        record ∉ batch.outcome.records) :
    (scene.tick target loop).value.router.destination? ref record =
      scene.router.destination? ref record := by
  have same := router_send scene target
  simp only [tick, Traced.value_bind]
  generalize (scene.send target).value = result at same unrelated ⊢
  rcases result with ⟨after, sent⟩
  dsimp only at same unrelated ⊢
  rw [same]
  cases sent with
  | none => exact Router.destination?_scheduleTick scene.router target loop
  | some answer =>
      rcases answer with ⟨policy, batch⟩
      dsimp only
      split
      · exact Router.destination?_settle scene.router fun here =>
          unrelated here policy batch rfl
      · rfl

private theorem mem_agenda_tick {target : ClusterRef} {loop : Nat} {alarm : Alarm}
    (pending : alarm ∈ (scene.tick target loop).value.router.agenda) :
    alarm ∈ scene.router.agenda ∨ alarm.cluster = target ∧ (alarm.wakeup.records = [] ∨
      ∃ policy batch, (scene.send target).value.2 = some (policy, batch) ∧
        alarm.wakeup.records = batch.outcome.records) := by
  have same := router_send scene target
  simp only [tick, Traced.value_bind] at pending
  generalize (scene.send target).value = result at same pending ⊢
  rcases result with ⟨after, sent⟩
  dsimp only at same pending ⊢
  rw [same] at pending
  have ticked : alarm.wakeup = .tick loop → alarm.wakeup.records = [] := by
    intro next
    rw [next]
    rfl
  cases sent with
  | none =>
      exact (Router.mem_agenda_scheduleTick pending).imp_right
        (And.imp_right fun next => .inl (ticked next))
  | some answer =>
      rcases answer with ⟨policy, batch⟩
      dsimp only at pending
      split at pending
      · exact (Router.mem_agenda_settle pending).imp_right
          (And.imp_right fun next => .inl (ticked next))
      · rcases List.mem_append.1 pending with old | new
        · exact .inl old
        · rw [List.mem_singleton.1 new]
          exact .inr ⟨rfl, .inr ⟨policy, batch, rfl, rfl⟩⟩

end Scene

/-! Work. -/

namespace Work

/-- The records that work may change: those that its alarm is about, or those that it
probes. -/
def touched (work : Work) : List Nat :=
  work.alarm.wakeup.records ++
    (work.sent?.map (fun sent => sent.2.outcome.records)).getD []

private theorem destination?_after (work : Work) {ref : ClusterRef} {record : Nat}
    (unrelated : work.alarm.cluster = ref → record ∉ work.touched) :
    work.after.router.destination? ref record =
      work.scene.router.destination? ref record := by
  have ticks : ∀ {loop}, work.isTick = true →
      (work.scene.tick work.alarm.cluster loop).value.router.destination? ref record =
        work.scene.router.destination? ref record := by
    intro loop starts
    refine Scene.destination?_tick work.scene fun here policy batch sent about => ?_
    refine unrelated here (List.mem_append_right _ ?_)
    rw [sent?, if_pos starts, sent]
    exact about
  cases starts : work.alarm.wakeup.startsTick with
  | false =>
      exact Scene.destination?_wake work.scene starts fun here about =>
        unrelated here (List.mem_append_left _ about)
  | true =>
      unfold after Scene.wake
      split
      · rename_i wakeup
        rw [wakeup] at starts
        cases starts
      · exact ticks starts
      · exact ticks starts
      · rename_i wakeup
        rw [wakeup] at starts
        cases starts

private theorem mem_agenda_after (work : Work) {alarm : Alarm}
    (pending : alarm ∈ work.after.router.agenda) :
    alarm ∈ work.scene.router.agenda ∨
      alarm.cluster = work.alarm.cluster ∧ alarm.wakeup.records ⊆ work.touched := by
  have ticks : ∀ {loop}, work.isTick = true →
      alarm ∈ (work.scene.tick work.alarm.cluster loop).value.router.agenda →
        alarm ∈ work.scene.router.agenda ∨
          alarm.cluster = work.alarm.cluster ∧ alarm.wakeup.records ⊆ work.touched := by
    intro loop starts pending
    refine (Scene.mem_agenda_tick pending).imp_right (And.imp_right fun records => ?_)
    rcases records with none | ⟨policy, batch, sent, same⟩
    · rw [none]
      exact List.nil_subset _
    · rw [same, touched, sent?, if_pos starts, sent]
      exact List.subset_append_right _ _
  unfold after Scene.wake at pending
  split at pending
  · simp only [Traced.value_bind, Traced.value_pure, Router.value_withCluster] at pending
    rw [(Router.sameAgenda_mapCluster work.scene.router work.alarm.cluster _).agenda]
      at pending
    exact .inl pending
  · rename_i wakeup
    exact ticks (by rw [isTick, wakeup]; rfl) pending
  · rename_i wakeup
    exact ticks (by rw [isTick, wakeup]; rfl) pending
  · rcases Router.mem_agenda_settle pending with old | ⟨here, next⟩
    · exact .inl old
    · rw [next]
      exact .inr ⟨here, List.nil_subset _⟩

end Work

private theorem Ruling.destination?_after (ruling : Ruling) {ref : ClusterRef}
    {record : Nat} (excluded : ruling.outcome? ref record = none) :
    ruling.after.destination? ref record = ruling.router.destination? ref record := by
  refine Router.destination?_judge ruling.router fun here about => ?_
  rw [outcome?, if_pos here, List.lookup_eq_none_iff] at excluded
  rcases List.mem_map.1 about with ⟨result, there, rfl⟩
  exact bne_iff_ne.1 (excluded result there) rfl

namespace Scene

/-- What is done for one record is not done to another: reports, timers and the results of
probes leave all other records alone, in this cluster and in others, and set timers for
their own records only. -/
structure Apart (scene : Scene) : Prop where
  reports : ∀ operation lease outcome,
    scene.router.reported? operation = some (lease, outcome) →
      ∀ ref record, lease ≠ { cluster := ref, record } →
        (scene.perform operation).value.router.destination? ref record =
          scene.router.destination? ref record
  timers : ∀ operation lease outcome,
    scene.router.reported? operation = some (lease, outcome) →
      ∀ alarm ∈ (scene.perform operation).value.router.agenda,
        alarm ∈ scene.router.agenda ∨
        alarm.cluster = lease.cluster ∧ alarm.wakeup.records = [lease.record]
  work : ∀ operation, ∀ work ∈ scene.workOf operation, ∀ ref record,
    (work.alarm.cluster = ref → record ∉ work.touched) →
      work.after.router.destination? ref record =
        work.scene.router.destination? ref record
  following : ∀ operation, ∀ work ∈ scene.workOf operation,
    ∀ alarm ∈ work.after.router.agenda, alarm ∈ work.scene.router.agenda ∨
      alarm.cluster = work.alarm.cluster ∧ alarm.wakeup.records ⊆ work.touched
  results : ∀ operation, ∀ ruling ∈ scene.rulingsOf operation, ∀ ref record,
    ruling.outcome? ref record = none →
      ruling.after.destination? ref record = ruling.router.destination? ref record

theorem apart (scene : Scene) : scene.Apart where
  reports := fun operation lease outcome reported ref record different =>
    destination?_reported reported different
  timers := by
    intro operation lease outcome reported alarm pending
    rw [(sameHealth_reported reported).agenda] at pending
    exact (alarm_of_observe pending).imp_right And.right
  work := fun operation work done ref record => work.destination?_after
  following := fun operation work done alarm => work.mem_agenda_after
  results := fun operation ruling done ref record => ruling.destination?_after

end Scene

end Gateway
