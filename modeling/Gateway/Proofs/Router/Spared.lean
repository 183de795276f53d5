import Gateway.Proofs.Probing.Beats
import Gateway.Proofs.Router.Reporting

namespace Gateway

/-! Requests, reports, timers and probes each work on one incarnation of one cluster.
What they do stays there: all other clusters, and what is to be done for them, are as
before. -/

namespace Router

variable {router before middle after : Router} {scope narrower : ClusterRef → Bool}
  {ref : ClusterRef} {id : String}

/-- Two states of a gateway that do not differ in the clusters of a scope, nor in what is
to be done for them. -/
structure Spared (scope : ClusterRef → Bool) (before after : Router) : Prop where
  clusters : ∀ ref, scope ref = true → after.cluster? ref = before.cluster? ref
  agenda : after.agenda.filter (fun alarm => scope alarm.cluster) =
    before.agenda.filter (fun alarm => scope alarm.cluster)

namespace Spared

theorem refl (scope : ClusterRef → Bool) (router : Router) : Spared scope router router :=
  ⟨fun _ _ => rfl, rfl⟩

theorem trans (first : Spared scope before middle) (last : Spared scope middle after) :
    Spared scope before after where
  clusters := fun ref inside =>
    (last.clusters ref inside).trans (first.clusters ref inside)
  agenda := last.agenda.trans first.agenda

theorem mem_agenda (spared : Spared scope before after) {alarm : Alarm}
    (inside : scope alarm.cluster = true) :
    alarm ∈ after.agenda ↔ alarm ∈ before.agenda := by
  have kept : ∀ agenda : List Alarm,
      alarm ∈ agenda ↔ alarm ∈ agenda.filter (fun alarm => scope alarm.cluster) := by
    intro agenda
    rw [List.mem_filter, and_iff_left inside]
  rw [kept, spared.agenda, ← kept]

theorem untouched (spared : Spared (fun ref => ref.id == id) before after)
    (same : SameOutline before after) : Untouched id before after where
  incarnations := by
    apply List.ext_getElem?
    intro incarnation
    exact spared.clusters { id, incarnation } (beq_self_eq_true id)
  registered := by rw [same.registered]
  probing := by rw [same.probing]
  agenda := spared.agenda

section Outside

variable (outside : scope ref = false)

include outside

theorem setCluster {cluster : Cluster} (present : router.cluster? ref = some cluster)
    (changed : Cluster) : Spared scope router (router.setCluster ref changed) := by
  refine ⟨fun other inside => ?_, rfl⟩
  rw [cluster?_setCluster present, if_neg]
  rintro rfl
  rw [outside] at inside
  cases inside

theorem mapCluster (router : Router) (change : Cluster → Cluster) :
    Spared scope router (router.mapCluster ref change) := by
  unfold Router.mapCluster
  split
  · exact .refl scope router
  · rename_i cluster present
    exact setCluster outside present (change cluster)

theorem setAlarm (router : Router) (due : Nat) (wakeup : Wakeup) :
    Spared scope router (router.setAlarm { due, cluster := ref, wakeup }) := by
  refine ⟨fun _ _ => rfl, ?_⟩
  simp [Router.setAlarm, outside]

end Outside

end Spared

section Outside

variable (outside : scope ref = false)

include outside

/-! Requests. -/

private theorem spared_observe (router : Router) (record : Nat) (outcome : Outcome) :
    Spared scope router (router.observe ref record outcome).value := by
  have heard := heard_observe router ref record outcome
  generalize (router.observe ref record outcome).value = next at heard ⊢
  cases heard with
  | absent => exact .refl scope router
  | settled present => exact .setCluster outside present _
  | timed present =>
      exact (Spared.setCluster outside present _).trans (.setAlarm outside _ _ _)
  | untimed present => exact .setCluster outside present _

private theorem spared_acquire (router : Router) (record : Nat) :
    Spared scope router (router.acquire ref record).1 := by
  have counted := Spared.mapCluster outside router (fun cluster =>
    cluster.incrementRequests.modifyRecord record Destination.increment)
  exact ⟨counted.clusters, counted.agenda⟩

private theorem spared_pick (router : Router) {cluster : Cluster}
    (present : router.cluster? ref = some cluster) (model : ClusterModel)
    (request : Http.Request) :
    Spared scope router (router.pick ref model cluster request).value.1 := by
  have turned := Spared.setCluster outside present
    { cluster with
      cursor :=
        (cluster.pick model request
          { cursor := cluster.cursor, draws := router.draws }).value.2.cursor }
  simp only [pick, Traced.value_bind, Traced.value_pure]
  exact ⟨turned.clusters, turned.agenda⟩

private theorem spared_pickNow (router : Router) (request : Http.Request) :
    Spared scope router (router.pickNow ref request).value := by
  unfold pickNow
  split
  · exact .refl scope router
  · rename_i cluster present
    exact spared_pick outside router present cluster.model request

private theorem spared_start (router : Router) (request : Http.Request) :
    Spared scope router (router.start ref request).value.1 := by
  unfold start
  split
  · exact .refl scope router
  · rename_i cluster present
    have picked := spared_pick outside router present cluster.model request
    simp only [Traced.value_bind]
    split
    · exact picked
    · rename_i picked' _
      have acquired := picked.trans (spared_acquire outside _ picked'.candidate.record)
      exact ⟨acquired.clusters, acquired.agenda⟩

/-! Background work. -/

private theorem spared_scheduleTick (router : Router) (loop : Nat) :
    Spared scope router (router.scheduleTick ref loop) := by
  unfold scheduleTick
  split
  · exact .refl scope router
  · exact .setAlarm outside router _ _

private theorem spared_judge (router : Router) (policy : ActivePolicy)
    (outcome : BatchEnd) :
    Spared scope router (router.judge ref policy outcome).value := by
  cases outcome with
  | crashed => exact .refl scope router
  | completed results =>
      simp only [judge, Traced.value_map, value_withCluster]
      exact .mapCluster outside router _

private theorem spared_settle (router : Router) (loop : Nat) (policy : ActivePolicy)
    (outcome : BatchEnd) :
    Spared scope router (router.settle ref loop policy outcome).value := by
  have judged := spared_judge outside router policy outcome
  unfold settle
  split <;> exact judged.trans (spared_scheduleTick outside _ loop)

end Outside

/-! The end of a lease, if it is alive. -/

section Ending

variable {number : Nat}
  (outside : ∀ lease, router.lease? number = some lease → scope lease.cluster = false)

include outside

private theorem spared_endLease (outcome : Outcome) :
    Spared scope router (router.endLease number outcome).value := by
  cases held : router.lease? number with
  | none =>
      rw [endLease_of_ended held]
      exact .refl scope router
  | some lease =>
      have apart := outside lease held
      have heard := spared_observe apart router lease.record outcome
      have released : Spared scope _
          ((router.observe lease.cluster lease.record outcome).value.release lease) :=
        .mapCluster apart _ _
      have ended := heard.trans released
      rw [value_endLease held]
      exact ⟨ended.clusters, ended.agenda⟩

end Ending

private theorem spared_endHeldLease {number : Nat} {outcome : Outcome}
    (outside : router.ownsLease number = false →
      ∀ lease, router.lease? number = some lease → scope lease.cluster = false) :
    Spared scope router (router.endHeldLease number outcome).value := by
  unfold endHeldLease
  split
  · exact .refl scope router
  · rename_i free
    exact spared_endLease (outside (eq_false_of_ne_true free)) outcome

section Waiting

variable {number : Nat}
  (outside : ∀ request, router.inFlight? number = some request →
    ∀ lease, router.lease? request.lease = some lease → scope lease.cluster = false)

include outside

private theorem spared_finish (result : Except ForwardFault Http.Response) :
    Spared scope router (router.finish number result).value.1 := by
  unfold finish
  split
  · exact .refl scope router
  · rename_i request waiting
    have ended := spared_endLease (outside request waiting) (.ofResult result)
    rcases respond_serial
      { (router.endLease request.lease (.ofResult result)).value with
        inFlight :=
          (router.endLease request.lease (.ofResult result)).value.inFlight.set
            number none }
      request result with ⟨serial, same⟩
    simp only [Traced.value_bind, Traced.value_pure, same]
    exact ⟨ended.clusters, ended.agenda⟩

private theorem spared_abandon : Spared scope router (router.abandon number).value := by
  unfold abandon
  split
  · exact .refl scope router
  · rename_i request waiting
    have ended := spared_endLease (outside request waiting) .canceled
    exact ⟨ended.clusters, ended.agenda⟩

end Waiting

theorem reported?_of_ending {operation : Operation} {number : Nat} {outcome : Outcome}
    {lease : Lease} (ending : router.ending? operation = some (number, outcome))
    (held : router.lease? number = some lease) :
    router.reported? operation = some (lease, outcome) := by
  unfold reported?
  split
  · cases ending
  · rw [ending, Option.bind_some, held]
    rfl

end Router

namespace Scene

variable {scene : Scene} {scope : ClusterRef → Bool} {operation : Operation}

private theorem spared_tick (scene : Scene) {ref : ClusterRef}
    (outside : scope ref = false) (loop : Nat) :
    Router.Spared scope scene.router (scene.tick ref loop).value.router := by
  have same := router_send scene ref
  simp only [tick, Traced.value_bind]
  generalize (scene.send ref).value = result at same ⊢
  rcases result with ⟨after, sent⟩
  dsimp only at same ⊢
  rw [← same]
  cases sent with
  | none => exact Router.spared_scheduleTick outside _ loop
  | some answer =>
      rcases answer with ⟨policy, batch⟩
      dsimp only
      split
      · exact Router.spared_settle outside _ loop policy _
      · exact .setAlarm outside _ _ _

theorem spared_wake (scene : Scene) {alarm : Alarm}
    (outside : scope alarm.cluster = false) :
    Router.Spared scope scene.router (scene.wake alarm).value.router := by
  unfold wake
  split
  · simp only [Traced.value_bind, Traced.value_pure, Router.value_withCluster]
    exact .mapCluster outside scene.router _
  · exact spared_tick scene outside _
  · exact spared_tick scene outside _
  · exact Router.spared_settle outside scene.router _ _ _

theorem spared_work {position : Nat} {alarm : Alarm}
    (pending : scene.router.agenda[position]? = some alarm)
    (outside : scope alarm.cluster = false) :
    Router.Spared scope scene.router (scene.work position alarm).after.router := by
  have rung : Router.Spared scope scene.router (scene.rung position alarm).router :=
    ⟨fun _ _ => rfl, filter_eraseIdx_of_not pending outside⟩
  exact rung.trans (spared_wake (scene.rung position alarm) outside)

private theorem spared_ring (count horizon : Nat) (scene : Scene)
    (outside : ∀ work ∈ ringing count horizon scene, scope work.alarm.cluster = false) :
    Router.Spared scope scene.router (ring count horizon scene).value.router := by
  induction count generalizing scene with
  | zero => exact .refl scope scene.router
  | succ count induction =>
      simp only [ring, ringing] at outside ⊢
      cases next : nextAlarm? scene.router.agenda with
      | none => exact .refl scope scene.router
      | some found =>
          rcases found with ⟨alarm, others⟩
          rcases nextAlarm?_eq_some next with ⟨position, pending, rfl⟩
          simp only [next] at outside
          dsimp only
          split
          · rename_i due
            rw [if_pos due] at outside
            have apart : scope alarm.cluster = false := outside _ List.mem_cons_self
            exact (spared_work pending apart).trans
              (induction (scene.work position alarm).after fun work member =>
                outside work (List.mem_cons_of_mem _ member))
          · exact .refl scope scene.router

private theorem spared_advanceBefore (scene : Scene) (horizon : Nat)
    (outside : ∀ work ∈ ringing (scene.alarmsBefore horizon) horizon scene,
      scope work.alarm.cluster = false) :
    Router.Spared scope scene.router (scene.advanceBefore horizon).value.router := by
  have rung := spared_ring (scene.alarmsBefore horizon) horizon scene outside
  exact ⟨rung.clusters, rung.agenda⟩

private theorem spared_advance (scene : Scene) (limit : Nat)
    (outside : ∀ work ∈ scene.workOf (.advance limit), scope work.alarm.cluster = false) :
    Router.Spared scope scene.router (scene.advance limit).value.router := by
  have rung := spared_ring (scene.alarmsBefore (limit + 1)) (limit + 1) scene outside
  exact ⟨rung.clusters, rung.agenda⟩

private theorem spared_checkOnce (scene : Scene) {ref : ClusterRef}
    (apart : scope ref = false)
    (outside : ∀ work ∈ scene.workOf (.check ref), scope work.alarm.cluster = false) :
    Router.Spared scope scene.router (scene.checkOnce ref).value.router := by
  have same := router_send scene ref
  simp only [checkOnce, workOf, Traced.value_bind] at outside ⊢
  generalize (scene.send ref).value = result at same outside ⊢
  rcases result with ⟨after, sent⟩
  dsimp only at same outside ⊢
  rw [← same]
  cases sent with
  | none => exact .refl scope after.router
  | some answer =>
      rcases answer with ⟨policy, batch⟩
      exact (spared_advanceBefore after _ outside).trans
        (Router.spared_judge apart _ policy batch.outcome)

/-- The clusters that an operation works on besides the registry: that of a request, of a
lease that ends, of a report, of probes by hand, and those of the alarms that ring. -/
def sites (scene : Scene) (operation : Operation) : List ClusterRef :=
  let requested :=
    match operation with
    | .pick ref _ | .start ref _ | .acquire ref _ | .check ref => [ref]
    | _ => []
  requested ++ (scene.router.reported? operation).toList.map (fun report =>
    report.1.cluster) ++
    (scene.workOf operation).map (fun work => work.alarm.cluster)

private theorem reported_mem_sites {lease : Lease} {outcome : Outcome}
    (reported : scene.router.reported? operation = some (lease, outcome)) :
    lease.cluster ∈ scene.sites operation := by
  simp [sites, reported]

private theorem work_mem_sites {work : Work} (done : work ∈ scene.workOf operation) :
    work.alarm.cluster ∈ scene.sites operation :=
  List.mem_append_right _ (List.mem_map_of_mem done)

theorem outside_ringing (count horizon : Nat) (scene : Scene)
    (silent : ∀ alarm ∈ scene.router.agenda, scope alarm.cluster = false) :
    ∀ work ∈ ringing count horizon scene, scope work.alarm.cluster = false := by
  induction count generalizing scene with
  | zero => exact List.forall_mem_nil _
  | succ count induction =>
      simp only [ringing]
      cases next : nextAlarm? scene.router.agenda with
      | none => exact List.forall_mem_nil _
      | some found =>
          rcases found with ⟨alarm, others⟩
          rcases nextAlarm?_eq_some next with ⟨position, pending, rfl⟩
          dsimp only
          split
          · have outside := silent alarm (List.mem_of_getElem? pending)
            refine List.forall_mem_cons.2 ⟨outside, ?_⟩
            refine induction (scene.work position alarm).after fun other later => ?_
            by_contra inside
            have inside := eq_true_of_ne_false inside
            have before := ((spared_work pending outside).mem_agenda inside).1 later
            rw [silent other before] at inside
            cases inside
          · exact List.forall_mem_nil _

theorem outside_workOf (operation : Operation)
    (silent : ∀ alarm ∈ scene.router.agenda, scope alarm.cluster = false) :
    ∀ work ∈ scene.workOf operation, scope work.alarm.cluster = false := by
  cases operation with
  | check ref =>
      have same := router_send scene ref
      simp only [workOf]
      generalize (scene.send ref).value = result at same ⊢
      rcases result with ⟨after, sent⟩
      dsimp only at same ⊢
      rw [← same] at silent
      cases sent with
      | none => exact List.forall_mem_nil _
      | some => exact outside_ringing _ _ after silent
  | ring position =>
      intro work member
      rcases Option.map_eq_some_iff.1 (Option.mem_toList.1 member) with
        ⟨alarm, pending, rfl⟩
      exact silent alarm (List.mem_of_getElem? pending)
  | advance limit => exact outside_ringing _ _ scene silent
  | _ => exact List.forall_mem_nil _

theorem requested_of_mem_sites {ref : ClusterRef} (site : ref ∈ scene.sites operation)
    (silent : ∀ lease outcome, scene.router.reported? operation = some (lease, outcome) →
      lease.cluster ≠ ref)
    (idle : ∀ work ∈ scene.workOf operation, work.alarm.cluster ≠ ref) :
    (∃ request, operation = .pick ref request ∨ operation = .start ref request) ∨
      (∃ record, operation = .acquire ref record) ∨ operation = .check ref := by
  rcases List.mem_append.1 site with earlier | worked
  · rcases List.mem_append.1 earlier with requested | reported
    · cases operation with
      | pick target request =>
          rcases List.mem_singleton.1 requested with rfl
          exact .inl ⟨request, .inl rfl⟩
      | start target request =>
          rcases List.mem_singleton.1 requested with rfl
          exact .inl ⟨request, .inr rfl⟩
      | acquire target record =>
          rcases List.mem_singleton.1 requested with rfl
          exact .inr (.inl ⟨record, rfl⟩)
      | check target =>
          rcases List.mem_singleton.1 requested with rfl
          exact .inr (.inr rfl)
      | _ => cases requested
    · rcases List.mem_map.1 reported with ⟨⟨lease, outcome⟩, there, here⟩
      exact absurd here (silent lease outcome (Option.mem_toList.1 there))
  · rcases List.mem_map.1 worked with ⟨work, done, here⟩
    exact absurd here (idle work done)

/-- Whatever an operation does besides the registry stays in the clusters that it works
on. -/
theorem spared_perform (quiet : operation.reconfigures = false)
    (outside : ∀ ref ∈ scene.sites operation, scope ref = false) :
    Router.Spared scope scene.router (scene.perform operation).value.router := by
  have ended : ∀ number outcome, scene.router.ending? operation = some (number, outcome) →
      ∀ lease, scene.router.lease? number = some lease → scope lease.cluster = false :=
    fun number outcome ending lease held =>
      outside lease.cluster (reported_mem_sites (Router.reported?_of_ending ending held))
  have working : ∀ work ∈ scene.workOf operation, scope work.alarm.cluster = false :=
    fun work done => outside _ (work_mem_sites done)
  cases operation with
  | configure => cases quiet
  | applySnapshot => cases quiet
  | remove => cases quiet
  | pick ref request =>
      exact Router.spared_pickNow (outside ref (by simp [sites])) _ request
  | start ref request =>
      exact Router.spared_start (outside ref (by simp [sites])) _ request
  | finish number result =>
      refine Router.spared_finish (fun request waiting => ?_) result
      exact ended request.lease (.ofResult result) (by simp [Router.ending?, waiting])
  | abandon number =>
      refine Router.spared_abandon fun request waiting => ?_
      exact ended request.lease .canceled (by simp [Router.ending?, waiting])
  | acquire ref record =>
      simp only [perform]
      split
      · exact Router.spared_acquire (outside ref (by simp [sites])) _ record
      · exact .refl scope scene.router
  | complete number outcome =>
      refine Router.spared_endHeldLease fun free => ?_
      exact ended number outcome (by simp [Router.ending?, free])
  | drop number =>
      refine Router.spared_endHeldLease fun free => ?_
      exact ended number .canceled (by simp [Router.ending?, free])
  | report ref record outcome =>
      have reported : scene.router.reported? (.report ref record outcome) =
          some ({ cluster := ref, record }, outcome) := rfl
      exact Router.spared_observe (outside ref (reported_mem_sites reported))
        scene.router record
        outcome
  | answer => exact .refl scope scene.router
  | check ref => exact spared_checkOnce scene (outside ref (by simp [sites])) working
  | ring position =>
      simp only [perform, ringAt]
      cases pending : scene.router.agenda[position]? with
      | none => exact .refl scope scene.router
      | some alarm =>
          exact spared_work pending
            (working (scene.work position alarm) (by simp [workOf, pending]))
  | elapse => exact ⟨fun _ _ => rfl, rfl⟩
  | advance limit => exact spared_advance scene limit working

theorem spared_reported {lease : Lease} {outcome : Outcome}
    (reported : scene.router.reported? operation = some (lease, outcome))
    (outside : scope lease.cluster = false) :
    Router.Spared scope scene.router (scene.perform operation).value.router := by
  have alone :
      operation.reconfigures = false ∧ scene.sites operation = [lease.cluster] := by
    rcases Router.reported?_cases reported with same | ⟨number, ending, -⟩
    · rw [same]
      exact ⟨rfl, rfl⟩
    · cases operation with
      | finish => exact ⟨rfl, by simp [sites, workOf, reported]⟩
      | abandon => exact ⟨rfl, by simp [sites, workOf, reported]⟩
      | complete => exact ⟨rfl, by simp [sites, workOf, reported]⟩
      | drop => exact ⟨rfl, by simp [sites, workOf, reported]⟩
      | _ => cases ending
  refine spared_perform alone.1 fun ref site => ?_
  rw [alone.2] at site
  rw [List.mem_singleton.1 site]
  exact outside

end Scene

end Gateway
