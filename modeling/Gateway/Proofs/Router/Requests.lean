import Gateway.Proofs.Cluster.Picking
import Gateway.Proofs.Router.Background

namespace Gateway

namespace Router

variable {policies : Policies} {router : Router}

/-! Reports. An exclusion that begins sets a timer, on a cluster that is at work. -/

inductive Heard (router : Router) (ref : ClusterRef) (record : Nat) (outcome : Outcome) :
    Router → Prop
  | absent (missing : router.cluster? ref = none) : Heard router ref record outcome router
  | settled {cluster : Cluster} (present : router.cluster? ref = some cluster)
      (calm : (cluster.observe router.now record outcome).value.2 = none) :
      Heard router ref record outcome
        (router.setCluster ref (cluster.observe router.now record outcome).value.1)
  | timed {cluster : Cluster} {exclusion : Exclusion}
      (present : router.cluster? ref = some cluster)
      (began : (cluster.observe router.now record outcome).value.2 = some exclusion)
      (background : router.background = true) (working : cluster.shutDown = false) :
      Heard router ref record outcome
        ((router.setCluster ref
          (cluster.observe router.now record outcome).value.1).setAlarm
          { due := router.now + exclusion.period
            cluster := ref
            wakeup := .reactivate exclusion })
  | untimed {cluster : Cluster} {exclusion : Exclusion}
      (present : router.cluster? ref = some cluster)
      (began : (cluster.observe router.now record outcome).value.2 = some exclusion)
      (idle : ¬ (router.background = true ∧ cluster.shutDown = false)) :
      Heard router ref record outcome
        (router.setCluster ref (cluster.observe router.now record outcome).value.1)

theorem heard_observe (router : Router) (ref : ClusterRef) (record : Nat)
    (outcome : Outcome) :
    Heard router ref record outcome (router.observe ref record outcome).value := by
  simp only [observe, Traced.value_bind]
  cases present : router.cluster? ref with
  | none =>
      simp only [withCluster, present]
      exact .absent present
  | some cluster =>
      simp only [withCluster, present, Traced.value_bind, Traced.value_pure]
      generalize observed : (cluster.observe router.now record outcome).value = result
      rcases result with ⟨after, exclusion⟩
      have same : after = (cluster.observe router.now record outcome).value.1 := by
        rw [observed]
      cases exclusion with
      | none =>
          rw [same]
          exact .settled present (by rw [observed])
      | some exclusion =>
          have began :
              (cluster.observe router.now record outcome).value.2 = some exclusion := by
            rw [observed]
          have shutDown : after.shutDown = cluster.shutDown := by
            rw [same]
            exact (Cluster.onlyHealth_observe _ _ _ _).shutDown
          have there : (router.setCluster ref after).cluster? ref = some after := by
            rw [cluster?_setCluster present, if_pos rfl]
          have kept : (router.setCluster ref after).background = router.background := rfl
          simp only [scheduleReactivation, there, shutDown, kept]
          by_cases background : router.background = true
          · rw [if_pos background]
            by_cases closed : cluster.shutDown = true
            · rw [if_pos closed, same]
              refine .untimed present began fun idle => ?_
              rw [idle.2] at closed
              cases closed
            · rw [if_neg closed, same]
              exact .timed present began background (eq_false_of_ne_true closed)
          · rw [if_neg background]
            have untimed :
                Heard router ref record outcome (router.setCluster ref after) := by
              rw [same]
              exact .untimed present began fun idle => background idle.1
            split <;> exact untimed

theorem Heard.cases {ref : ClusterRef} {record : Nat} {outcome : Outcome} {next : Router}
    (heard : Heard router ref record outcome next) :
    (router.cluster? ref = none ∧ next = router) ∨
      ∃ cluster agenda, router.cluster? ref = some cluster ∧
        next =
          { router.setCluster ref (cluster.observe router.now record outcome).value.1 with
            agenda } := by
  cases heard with
  | absent missing => exact .inl ⟨missing, rfl⟩
  | @settled cluster present => exact .inr ⟨cluster, router.agenda, present, rfl⟩
  | @timed cluster _ present => exact .inr ⟨cluster, _, present, rfl⟩
  | @untimed cluster _ present => exact .inr ⟨cluster, router.agenda, present, rfl⟩

theorem observe_of_absent {ref : ClusterRef} (missing : router.cluster? ref = none)
    (record : Nat) (outcome : Outcome) :
    (router.observe ref record outcome).value = router := by
  rcases (heard_observe router ref record outcome).cases with
    ⟨-, same⟩ | ⟨_, _, present, -⟩
  · exact same
  · rw [missing] at present
    cases present

theorem frame_observe (router : Router) (ref : ClusterRef) (record : Nat)
    (outcome : Outcome) :
    Frame router (router.observe ref record outcome).value := by
  rcases (heard_observe router ref record outcome).cases with
    ⟨-, same⟩ | ⟨cluster, agenda, -, same⟩
  · rw [same]
    exact .refl router
  · rw [same]
    exact ⟨rfl, rfl, rfl, rfl, Nat.le_refl _⟩

theorem healthOf_observe {ref : ClusterRef} {cluster : Cluster}
    (present : router.cluster? ref = some cluster) (record : Nat) (outcome : Outcome)
    (other : ClusterRef) (number : Nat) :
    (router.observe ref record outcome).value.healthOf other number =
      if other = ref then
        (cluster.observe router.now record outcome).value.1.healthOf number
      else router.healthOf other number := by
  rcases (heard_observe router ref record outcome).cases with
    ⟨missing, -⟩ | ⟨found, agenda, there, same⟩
  · rw [present] at missing
    cases missing
  · rw [present, Option.some.injEq] at there
    subst there
    rw [same]
    exact healthOf_setCluster present other number

theorem agenda_observe {ref : ClusterRef} {cluster : Cluster}
    (present : router.cluster? ref = some cluster) (background : router.background = true)
    (record : Nat) (outcome : Outcome) :
    (router.observe ref record outcome).value.agenda =
      router.agenda ++
        match (cluster.observe router.now record outcome).value.2 with
        | none => []
        | some exclusion =>
            if cluster.shutDown then []
            else
              [{ due := router.now + exclusion.period
                 cluster := ref
                 wakeup := .reactivate exclusion }] := by
  have heard := heard_observe router ref record outcome
  generalize (router.observe ref record outcome).value = next at heard ⊢
  cases heard with
  | absent missing =>
      rw [present] at missing
      cases missing
  | settled there calm =>
      rw [present, Option.some.injEq] at there
      subst there
      rw [calm]
      exact (List.append_nil _).symm
  | timed there began _ working =>
      rw [present, Option.some.injEq] at there
      subst there
      simp only [began, working, Bool.false_eq_true, if_false]
      rfl
  | untimed there began idle =>
      rw [present, Option.some.injEq] at there
      subst there
      have closed : cluster.shutDown = true := by
        cases shutDown : cluster.shutDown with
        | true => rfl
        | false => exact absurd ⟨background, shutDown⟩ idle
      simp only [began, closed, if_true, List.append_nil]
      rfl

theorem isShutDown_observe (router : Router) (ref : ClusterRef) (record : Nat)
    (outcome : Outcome) (other : ClusterRef) :
    (router.observe ref record outcome).value.isShutDown other =
      router.isShutDown other := by
  rcases (heard_observe router ref record outcome).cases with
    ⟨-, same⟩ | ⟨cluster, agenda, present, same⟩
  · rw [same]
  · rw [same]
    exact isShutDown_setCluster present
      (Cluster.onlyHealth_observe _ _ _ _).shutDown other

/-! Leases. The end of one is a report, after which its request is counted no more. -/

def release (router : Router) (lease : Lease) : Router :=
  router.mapCluster lease.cluster (fun cluster =>
    (cluster.modifyRecord lease.record Destination.decrement).decrementRequests)

theorem value_endLease {number : Nat} {lease : Lease}
    (held : router.lease? number = some lease) (outcome : Outcome) :
    (router.endLease number outcome).value =
      { release (router.observe lease.cluster lease.record outcome).value lease with
        leases := router.leases.set number none } := by
  have heard := frame_observe router lease.cluster lease.record outcome
  have counted :=
    Frame.mapCluster (router.observe lease.cluster lease.record outcome).value
    lease.cluster (fun cluster =>
      (cluster.modifyRecord lease.record Destination.decrement).decrementRequests)
  simp only [endLease, held, Traced.value_bind, Traced.value_pure, counted.leases,
    heard.leases]
  rfl

theorem endLease_of_ended {number : Nat} (ended : router.lease? number = none)
    (outcome : Outcome) : router.endLease number outcome = pure router := by
  simp only [endLease, ended]

theorem Known.observe (known : Known policies router) (ref : ClusterRef) (record : Nat)
    (outcome : Outcome) : Known policies (router.observe ref record outcome).value := by
  have heard := heard_observe router ref record outcome
  generalize (router.observe ref record outcome).value = next at heard ⊢
  have settled : ∀ {cluster : Cluster}, router.cluster? ref = some cluster →
      Known policies
        (router.setCluster ref (cluster.observe router.now record outcome).value.1) := by
    intro cluster present
    have frame := Cluster.onlyHealth_observe cluster router.now record outcome
    refine known.setCluster present (fun working => frame.shutDown.trans working) ?_
    rw [frame.model]
    exact known.models ref cluster present
  cases heard with
  | absent => exact known
  | settled present => exact settled present
  | timed present =>
      have there := settled present
      refine ⟨there.tables, there.models, fun alarm pending => ?_, there.registered⟩
      rcases List.mem_append.1 pending with old | new
      · exact there.alarms alarm old
      · rw [List.mem_singleton.1 new]
        intro loop policy outcome settles
        cases settles
  | untimed present => exact settled present

theorem Known.acquire (known : Known policies router) (ref : ClusterRef) (record : Nat) :
    Known policies (router.acquire ref record).1 := by
  have counted : Known policies (router.mapCluster ref (fun cluster =>
      cluster.incrementRequests.modifyRecord record Destination.increment)) :=
    known.mapCluster ref (fun _ => rfl) (fun _ => rfl)
  exact ⟨counted.tables, counted.models, counted.alarms, counted.registered⟩

theorem Known.endLease (known : Known policies router) (number : Nat)
    (outcome : Outcome) :
    Known policies (router.endLease number outcome).value := by
  unfold Router.endLease
  split
  · exact known
  · rename_i lease _
    have counted : Known policies (Router.mapCluster
        (router.observe lease.cluster lease.record outcome).value lease.cluster
        (fun cluster =>
          (cluster.modifyRecord lease.record Destination.decrement).decrementRequests)) :=
      (known.observe lease.cluster lease.record outcome).mapCluster lease.cluster
        (fun _ => rfl) (fun _ => rfl)
    exact ⟨counted.tables, counted.models, counted.alarms, counted.registered⟩

/-! Counting requests touches nothing that exclusions depend on. -/

structure SameHealth (before after : Router) : Prop where
  health : ∀ ref record, after.healthOf ref record = before.healthOf ref record
  shutDown : ∀ ref, after.isShutDown ref = before.isShutDown ref
  agenda : after.agenda = before.agenda
  now : after.now = before.now
  background : after.background = before.background

theorem SameHealth.refl (router : Router) : SameHealth router router :=
  ⟨fun _ _ => rfl, fun _ => rfl, rfl, rfl, rfl⟩

private theorem sameHealth_mapCluster (router : Router) (ref : ClusterRef)
    {change : Cluster → Cluster}
    (health : ∀ cluster record,
      (change cluster).healthOf record = cluster.healthOf record)
    (shutDown : ∀ cluster, (change cluster).shutDown = cluster.shutDown) :
    SameHealth router (router.mapCluster ref change) := by
  unfold mapCluster
  split
  · exact .refl router
  · rename_i cluster present
    refine ⟨fun other record => ?_, isShutDown_setCluster present (shutDown cluster), rfl,
      rfl, rfl⟩
    exact view_setCluster (fun cluster => cluster.healthOf record) {} present
      (health cluster record) other

theorem sameHealth_acquire (router : Router) (ref : ClusterRef) (record : Nat) :
    SameHealth router (router.acquire ref record).1 := by
  have counted : SameHealth router (router.mapCluster ref (fun cluster =>
      cluster.incrementRequests.modifyRecord record Destination.increment)) :=
    sameHealth_mapCluster router ref
      (fun cluster => fun number =>
        Destination.healthAt_modify cluster.records record number Destination.increment
          fun _ => rfl)
      (fun _ => rfl)
  exact ⟨counted.health, counted.shutDown, counted.agenda, counted.now,
    counted.background⟩

theorem sameHealth_release (router : Router) (lease : Lease) :
    SameHealth router (router.release lease) :=
  sameHealth_mapCluster router lease.cluster
    (fun cluster => fun number =>
      Destination.healthAt_modify cluster.records lease.record number
        Destination.decrement
        fun _ => rfl)
    (fun _ => rfl)

/-! Every operation is one of these: work besides the requests that wait, a report, or
the end of a lease. That work is moves alone, or a lease that is taken after some
moves. -/

inductive Begun (policies : Policies) (router : Router) : Router → Prop
  | moved {next : Router} (moves : Moves policies router next) :
  Begun policies router next
  | acquired {ref : ClusterRef} {record : Nat}
      (there : router.hasRecord ref record = true) :
      Begun policies router (router.acquire ref record).1
  | started {middle : Router} (moves : Moves policies router middle)
      (request : InFlight)
      (there : middle.hasRecord request.cluster request.candidate.record = true)
      (own : request.lease = middle.leases.length)
      (accepted : policies.resolve request.model.config = .ok request.model) :
      Begun policies router
        { (middle.acquire request.cluster request.candidate.record).1 with
          inFlight :=
            (middle.acquire request.cluster request.candidate.record).1.inFlight ++
              [some request] }

inductive Performed (policies : Policies) (router : Router) : Router → Prop
  | begun {next : Router} (begun : Begun policies router next) :
  Performed policies router next
  | reported (ref : ClusterRef) (record : Nat) (outcome : Outcome) :
      Performed policies router (router.observe ref record outcome).value
  | ended {number : Nat} (held : router.ownsLease number = false) (outcome : Outcome) :
      Performed policies router (router.endLease number outcome).value
  | finished {number : Nat} {request : InFlight}
      (waiting : router.inFlight? number = some request) (outcome : Outcome)
      (serial : Nat) :
      Performed policies router
        { (router.endLease request.lease outcome).value with
          inFlight :=
            (router.endLease request.lease outcome).value.inFlight.set number none
          serial }

theorem acquire_fields (router : Router) (ref : ClusterRef) (record : Nat) :
    (router.acquire ref record).1.leases =
        router.leases ++ [some { cluster := ref, record }] ∧
      (router.acquire ref record).1.inFlight = router.inFlight := by
  have fields := mapCluster_fields router ref (fun cluster =>
    cluster.incrementRequests.modifyRecord record Destination.increment)
  rcases fields with ⟨clusters, same⟩
  simp only [acquire, same, and_self]

private theorem acquire_number (router : Router) (ref : ClusterRef) (record : Nat) :
    (router.acquire ref record).2 = router.leases.length := by
  have fields := mapCluster_fields router ref (fun cluster =>
    cluster.incrementRequests.modifyRecord record Destination.increment)
  rcases fields with ⟨clusters, same⟩
  simp only [acquire, same]

theorem hasRecord_of_stored {ref : ClusterRef} {cluster : Cluster}
    (present : router.cluster? ref = some cluster) {record : Nat}
    {destination : Destination} (stored : cluster.records[record]? = some destination) :
    router.hasRecord ref record = true := by
  simp only [hasRecord, present, Option.any_some, decide_eq_true_eq]
  exact (List.getElem?_eq_some_iff.1 stored).1

private theorem begun_start (known : Known policies router) (choosing : policies.Choosing)
    (ref : ClusterRef) (request : Http.Request) :
    Begun policies router (router.start ref request).value.1 := by
  unfold start
  split
  · exact .moved .refl
  · rename_i cluster present
    have moves :
        Moves policies router (router.pick ref cluster.model cluster request).value.1 :=
      moves_pick router present cluster.model request
    have accepted := known.models ref cluster present
    simp only [Traced.value_bind]
    split
    · exact .moved moves
    · rename_i picked chosen
      have member := Cluster.mem_available_of_pick choosing accepted chosen
      rcases (Cluster.mem_candidates_iff _ _ _).1 member with ⟨-, stored⟩
      have turned : (router.pick ref cluster.model cluster request).value.1.cluster? ref =
          some { cluster with
            cursor :=
              (cluster.pick cluster.model request
                { cursor := cluster.cursor, draws := router.draws }).value.2.cursor } :=
        (cluster?_setCluster present _ ref).trans (if_pos rfl)
      let waiting : InFlight :=
        { cluster := ref
          model := cluster.model
          candidate := picked.candidate
          status := picked.status
          lease :=
            (acquire (router.pick ref cluster.model cluster request).value.1 ref
              picked.candidate.record).2
          backend :=
            Http.Backend.request picked.candidate.destination.config.address request }
      exact .started moves waiting (hasRecord_of_stored turned stored)
        (acquire_number _ _ _) accepted

theorem respond_serial (router : Router) (request : InFlight)
    (result : Except ForwardFault Http.Response) :
    ∃ serial, (router.respond request result).value.1 = { router with serial } := by
  unfold respond
  split
  · unfold affinitize
    split
    · simp only [Traced.value_bind]
      split
      · exact ⟨_, rfl⟩
      · exact ⟨router.serial, rfl⟩
    · exact ⟨router.serial, rfl⟩
  · exact ⟨router.serial, rfl⟩
  · exact ⟨router.serial, rfl⟩

theorem Known.performed {next : Router} (known : Known policies router)
    (performed : Performed policies router next) : Known policies next := by
  cases performed with
  | begun begun =>
      cases begun with
      | moved moves => exact known.moves moves
      | acquired => exact known.acquire _ _
      | started moves request =>
          have acquired :=
            (known.moves moves).acquire request.cluster request.candidate.record
          exact ⟨acquired.tables, acquired.models, acquired.alarms, acquired.registered⟩
  | reported ref record outcome => exact known.observe ref record outcome
  | @ended number _ outcome => exact known.endLease number outcome
  | @finished _ request _ outcome =>
      have ended := known.endLease request.lease outcome
      exact ⟨ended.tables, ended.models, ended.alarms, ended.registered⟩

/-- The lease that an operation ends if it is alive, and the outcome that is reported
then. -/
def ending? (router : Router) : Operation → Option (Nat × Outcome)
  | .complete number outcome =>
      if router.ownsLease number then none else some (number, outcome)
  | .drop number => if router.ownsLease number then none else some (number, .canceled)
  | .finish number result =>
      (router.inFlight? number).map (fun request => (request.lease, .ofResult result))
  | .abandon number =>
      (router.inFlight? number).map (fun request => (request.lease, .canceled))
  | _ => none

theorem value_endHeldLease_of_unended (router : Router) {number : Nat} {outcome : Outcome}
    (unended : router.ending? (.complete number outcome) = none) :
    (router.endHeldLease number outcome).value = router := by
  simp only [ending?] at unended
  unfold endHeldLease
  split
  · rfl
  · rename_i free
    rw [if_neg free] at unended
    cases unended

end Router

namespace Scene

variable {policies : Policies} {scene : Scene}

theorem begun_or_report (known : Router.Known policies scene.router)
    (choosing : policies.Choosing) {operation : Operation}
    (silent : scene.router.ending? operation = none) :
    Router.Begun policies scene.router (scene.perform operation).value.router ∨
      ∃ ref record outcome, operation = .report ref record outcome := by
  cases operation with
  | configure config => exact .inl (.moved (Router.moves_configure known config))
  | applySnapshot configs =>
      exact .inl (.moved (Router.moves_applySnapshot known configs))
  | remove id => exact .inl (.moved (Router.moves_remove _ id))
  | pick ref request => exact .inl (.moved (Router.moves_pickNow _ ref request))
  | start ref request => exact .inl (Router.begun_start known choosing ref request)
  | finish number result =>
      have nobody := Option.map_eq_none_iff.1 silent
      simp only [perform, Router.finish, nobody]
      exact .inl (.moved .refl)
  | abandon number =>
      have nobody := Option.map_eq_none_iff.1 silent
      simp only [perform, Router.abandon, nobody]
      exact .inl (.moved .refl)
  | acquire ref record =>
      simp only [perform]
      split
      · rename_i there
        exact .inl (.acquired there)
      · exact .inl (.moved .refl)
  | complete number outcome =>
      have same := scene.router.value_endHeldLease_of_unended silent
      simp only [perform, withRouter, Traced.value_bind, same]
      exact .inl (.moved .refl)
  | drop number =>
      have same : (scene.router.endHeldLease number .canceled).value = scene.router :=
        scene.router.value_endHeldLease_of_unended silent
      simp only [perform, withRouter, Traced.value_bind, same]
      exact .inl (.moved .refl)
  | report ref record outcome => exact .inr ⟨ref, record, outcome, rfl⟩
  | answer => exact .inl (.moved .refl)
  | check ref => exact .inl (.moved (moves_checkOnce known ref))
  | ring position => exact .inl (.moved (moves_ringAt known position))
  | elapse duration => exact .inl (.moved (.single (.wait (Nat.le_add_right _ duration))))
  | advance limit => exact .inl (.moved (moves_advance known limit))

/-- An operation that ends a lease does so at once. The lease may be that of a request
that waits; nothing waits for its backend then any more. -/
theorem router_ending {operation : Operation} {number : Nat} {outcome : Outcome}
    (ending : scene.router.ending? operation = some (number, outcome)) :
    (scene.router.ownsLease number = false ∧
        (scene.perform operation).value.router =
          (scene.router.endLease number outcome).value) ∨
      ∃ position request serial, scene.router.inFlight? position = some request ∧
        request.lease = number ∧
        (scene.perform operation).value.router =
          { (scene.router.endLease number outcome).value with
            inFlight :=
              (scene.router.endLease number outcome).value.inFlight.set position none
            serial } := by
  cases operation with
  | complete number outcome =>
      simp only [Router.ending?] at ending
      split at ending
      · cases ending
      · rename_i free
        cases ending
        refine .inl ⟨eq_false_of_ne_true free, ?_⟩
        simp only [perform, withRouter, Traced.value_bind, Router.endHeldLease,
          if_neg free]
        rfl
  | drop number =>
      simp only [Router.ending?] at ending
      split at ending
      · cases ending
      · rename_i free
        cases ending
        refine .inl ⟨eq_false_of_ne_true free, ?_⟩
        simp only [perform, withRouter, Traced.value_bind, Router.endHeldLease,
          if_neg free]
        rfl
  | abandon position =>
      rcases Option.map_eq_some_iff.1 ending with ⟨request, waiting, same⟩
      cases same
      refine .inr ⟨position, request,
        (scene.router.endLease request.lease .canceled).value.serial, waiting, rfl, ?_⟩
      simp only [perform, withRouter, Router.abandon, waiting, Traced.value_bind]
      rfl
  | finish position result =>
      rcases Option.map_eq_some_iff.1 ending with ⟨request, waiting, same⟩
      cases same
      have responded := Router.respond_serial
        { (scene.router.endLease request.lease (.ofResult result)).value with
          inFlight :=
            (scene.router.endLease request.lease (.ofResult result)).value.inFlight.set
              position
              none }
        request result
      rcases responded with ⟨serial, same⟩
      refine .inr ⟨position, request, serial, waiting, rfl, ?_⟩
      simp only [perform, withRouter, Router.finish, waiting, Traced.value_bind,
        Traced.value_map, same]
      rfl
  | _ => cases ending

theorem performed (known : Router.Known policies scene.router)
    (choosing : policies.Choosing) (operation : Operation) :
    Router.Performed policies scene.router (scene.perform operation).value.router := by
  cases ending : scene.router.ending? operation with
  | none =>
      rcases begun_or_report known choosing ending with
        begun | ⟨ref, record, outcome, rfl⟩
      · exact .begun begun
      · exact .reported ref record outcome
  | some ended =>
      rcases router_ending ending with
        ⟨held, same⟩ | ⟨position, request, serial, waiting, own, same⟩
      · rw [same]
        exact .ended held ended.2
      · rw [same, ← own]
        exact .finished waiting ended.2 serial

theorem known_after (choosing : policies.Choosing) (background : Bool)
    (run : List Operation) :
    Router.Known policies ((fresh policies background).after run).router := by
  induction run with
  | nil => exact Router.known_fresh policies background
  | cons operation earlier induction =>
      exact induction.performed (performed induction choosing operation)

end Scene

end Gateway
