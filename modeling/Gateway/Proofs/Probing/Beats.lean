import Gateway.Proofs.Probing.Work

namespace Gateway

/-! What an operation comes to besides the registry: one alarm after the other rings, and
in between nothing happens that a probe loop takes notice of. -/

namespace Router

variable {before middle after : Router}

/-- A step that takes no time and that no loop takes notice of. -/
structure Unnoticed (before after : Router) : Prop extends SameOutline before after where
  now : after.now = before.now
  alarms : after.loopAlarms = before.loopAlarms

theorem Unnoticed.refl (router : Router) : Unnoticed router router :=
  ⟨.refl router, rfl, rfl⟩

theorem Unnoticed.trans (first : Unnoticed before middle)
    (last : Unnoticed middle after) :
    Unnoticed before after :=
  ⟨first.toSameOutline.trans last.toSameOutline, last.now.trans first.now,
    last.alarms.trans first.alarms⟩

theorem Unnoticed.setCluster {router : Router} {ref : ClusterRef}
    {former cluster : Cluster} (present : router.cluster? ref = some former)
    (kept : cluster.outline = former.outline) :
    Unnoticed router (router.setCluster ref cluster) :=
  ⟨.setCluster present kept, rfl, rfl⟩

theorem Unnoticed.mapCluster (router : Router) (ref : ClusterRef)
    {change : Cluster → Cluster}
    (kept : ∀ cluster, (change cluster).outline = cluster.outline) :
    Unnoticed router (router.mapCluster ref change) :=
  ⟨.mapCluster router ref kept, (sameAgenda_mapCluster router ref change).now,
    congrArg (List.filter (fun alarm : Alarm => alarm.wakeup.loop?.isSome))
      (sameAgenda_mapCluster router ref change).agenda⟩

theorem Unnoticed.count (unnoticed : Unnoticed before after) (draws : UInt64)
    (serial : Nat) (leases : List (Option Lease)) (inFlight : List (Option InFlight)) :
    Unnoticed before { after with draws, serial, leases, inFlight } :=
  unnoticed.trans ⟨⟨rfl, rfl, rfl, rfl, fun _ => rfl⟩, rfl, rfl⟩

private theorem unnoticed_observe (router : Router) (ref : ClusterRef) (record : Nat)
    (outcome : Outcome) : Unnoticed router (router.observe ref record outcome).value := by
  have heard := heard_observe router ref record outcome
  generalize (router.observe ref record outcome).value = next at heard ⊢
  cases heard with
  | absent => exact .refl router
  | @settled cluster present =>
      exact .setCluster present
        (Cluster.onlyHealth_observe cluster _ record outcome).outline
  | @timed cluster exclusion present =>
      have heard : Unnoticed router _ :=
        .setCluster present
          (Cluster.onlyHealth_observe cluster router.now record outcome).outline
      refine heard.trans ⟨⟨rfl, rfl, rfl, rfl, fun _ => rfl⟩, rfl, ?_⟩
      simp [loopAlarms, setAlarm, Wakeup.loop?]
  | @untimed cluster _ present =>
      exact .setCluster present
        (Cluster.onlyHealth_observe cluster _ record outcome).outline

theorem unnoticed_acquire (router : Router) (ref : ClusterRef) (record : Nat) :
    Unnoticed router (router.acquire ref record).1 := by
  have counted : Unnoticed router (router.mapCluster ref (fun cluster =>
      cluster.incrementRequests.modifyRecord record Destination.increment)) :=
    .mapCluster router ref fun cluster =>
      Cluster.outline_modifyRecord cluster.incrementRequests record fun _ => rfl
  exact counted.count _ _ _ _

private theorem unnoticed_endLease (router : Router) (number : Nat) (outcome : Outcome) :
    Unnoticed router (router.endLease number outcome).value := by
  unfold endLease
  split
  · exact .refl router
  · rename_i lease _
    have heard := unnoticed_observe router lease.cluster lease.record outcome
    have released : Unnoticed (router.observe lease.cluster lease.record outcome).value
        (Router.mapCluster (router.observe lease.cluster lease.record outcome).value
          lease.cluster (fun cluster =>
            (cluster.modifyRecord lease.record
              Destination.decrement).decrementRequests)) :=
      .mapCluster _ lease.cluster fun cluster =>
        Cluster.outline_modifyRecord cluster lease.record fun _ => rfl
    exact (heard.trans released).count _ _ _ _

private theorem unnoticed_endHeldLease (router : Router) (number : Nat)
    (outcome : Outcome) :
    Unnoticed router (router.endHeldLease number outcome).value := by
  unfold endHeldLease
  split
  · exact .refl router
  · exact unnoticed_endLease router number outcome

private theorem unnoticed_pick (router : Router) {ref : ClusterRef} {cluster : Cluster}
    (present : router.cluster? ref = some cluster) (model : ClusterModel)
    (request : Http.Request) :
    Unnoticed router (router.pick ref model cluster request).value.1 := by
  simp only [pick, Traced.value_bind, Traced.value_pure]
  have turned : Unnoticed router (router.setCluster ref
      { cluster with
        cursor :=
          (cluster.pick model request
            { cursor := cluster.cursor, draws := router.draws }).value.2.cursor }) :=
    .setCluster present rfl
  exact turned.count _ _ _ _

private theorem unnoticed_pickNow (router : Router) (ref : ClusterRef)
    (request : Http.Request) :
    Unnoticed router (router.pickNow ref request).value := by
  unfold pickNow
  split
  · exact .refl router
  · rename_i cluster present
    exact unnoticed_pick router present cluster.model request

private theorem unnoticed_start (router : Router) (ref : ClusterRef)
    (request : Http.Request) :
    Unnoticed router (router.start ref request).value.1 := by
  unfold start
  split
  · exact .refl router
  · rename_i cluster present
    have picked := unnoticed_pick router present cluster.model request
    simp only [Traced.value_bind]
    split
    · exact picked
    · rename_i picked' _
      exact (picked.trans
        (unnoticed_acquire _ ref picked'.candidate.record)).count _ _ _ _

private theorem unnoticed_finish (router : Router) (number : Nat)
    (result : Except ForwardFault Http.Response) :
    Unnoticed router (router.finish number result).value.1 := by
  unfold finish
  split
  · exact .refl router
  · rename_i request _
    have ended := unnoticed_endLease router request.lease (.ofResult result)
    rcases respond_serial
      { (router.endLease request.lease (.ofResult result)).value with
        inFlight :=
          (router.endLease request.lease (.ofResult result)).value.inFlight.set
            number none }
      request result with ⟨serial, same⟩
    simp only [Traced.value_bind, Traced.value_pure, same]
    exact ended.count _ _ _ _

private theorem unnoticed_abandon (router : Router) (number : Nat) :
    Unnoticed router (router.abandon number).value := by
  unfold abandon
  split
  · exact .refl router
  · rename_i request _
    exact (unnoticed_endLease router request.lease .canceled).count _ _ _ _

theorem unnoticed_judge (router : Router) (ref : ClusterRef) (policy : ActivePolicy)
    (outcome : BatchEnd) : Unnoticed router (router.judge ref policy outcome).value :=
  ⟨sameOutline_judge router ref policy outcome,
    (sameAgenda_judge router ref policy outcome).now,
    congrArg (List.filter (fun alarm : Alarm => alarm.wakeup.loop?.isSome))
      (sameAgenda_judge router ref policy outcome).agenda⟩

end Router

/-- Whether an operation configures or removes clusters. -/
def Operation.reconfigures : Operation → Bool
  | .configure _ | .applySnapshot _ | .remove _ => true
  | _ => false

/-- Whether time passes in an operation. -/
def Operation.takesTime : Operation → Bool
  | .check _ | .ring _ | .elapse _ | .advance _ => true
  | _ => false

/-- A step of a run, with the work that is done there. -/
inductive Beat (scene : Scene) : List Work → Scene → Prop
  | rung {position : Nat} {alarm : Alarm}
  (pending : scene.router.agenda[position]? = some alarm) :
      Beat scene [scene.work position alarm] (scene.work position alarm).after
  | calm {next : Scene} (unnoticed : Router.Unnoticed scene.router next.router) :
      Beat scene [] next
  | passed (now : Nat) : Beat scene [] { scene with router := { scene.router with now } }

inductive Beats (start : Scene) : List Work → Scene → Prop
  | refl : Beats start [] start
  | tail {works more : List Work} {scene next : Scene} (earlier : Beats start works scene)
      (beat : Beat scene more next) : Beats start (works ++ more) next

namespace Beats

variable {start middle next : Scene} {works more : List Work}

theorem single (beat : Beat start works next) : Beats start works next :=
  .tail .refl beat

theorem trans (first : Beats start works middle) (last : Beats middle more next) :
    Beats start (works ++ more) next := by
  induction last with
  | refl =>
      rw [List.append_nil]
      exact first
  | tail _ beat induction =>
      rw [← List.append_assoc]
      exact .tail induction beat

theorem unnoticed (calm : Router.Unnoticed start.router next.router) :
    Beats start [] next :=
  single (.calm calm)

end Beats

/-! What is known about a gateway stays so. -/

theorem Router.Known.unnoticed {policies : Policies} {before after : Router}
    (known : Known policies before) (unnoticed : Unnoticed before after) :
    Known policies after where
  tables := unnoticed.policies.trans known.tables
  models := by
    intro ref cluster present
    rcases unnoticed.cluster? present with ⟨former, there, same⟩
    rw [Cluster.model_of_outline same]
    exact known.models ref former there
  alarms := by
    intro alarm pending loop policy outcome wakeup
    have looping : alarm ∈ after.loopAlarms :=
      List.mem_filter.2 ⟨pending, by rw [wakeup]; rfl⟩
    rw [unnoticed.alarms] at looping
    exact known.alarms alarm (List.mem_filter.1 looping).1 loop policy outcome wakeup
  registered := by
    intro id ref named
    rw [unnoticed.registeredRef?] at named
    rcases known.registered id ref named with ⟨former, there, working⟩
    have outlines := unnoticed.outlines ref
    rw [there] at outlines
    rcases Option.map_eq_some_iff.1 outlines with ⟨cluster, present, same⟩
    exact ⟨cluster, present, (congrArg Cluster.shutDown same).trans working⟩

theorem Router.Known.passed {policies : Policies} {router : Router}
    (known : Known policies router) (now : Nat) : Known policies { router with now } :=
  ⟨known.tables, known.models, known.alarms, known.registered⟩

theorem Beat.known {policies : Policies} {scene next : Scene} {works : List Work}
    (beat : Beat scene works next) (known : Router.Known policies scene.router) :
    Router.Known policies next.router := by
  cases beat with
  | rung pending => exact known.moves (Scene.moves_wake known pending)
  | calm unnoticed => exact known.unnoticed unnoticed
  | passed now => exact known.passed now

theorem Beat.looped {scene next : Scene} {works : List Work}
    (beat : Beat scene works next) (looped : ∀ id, scene.router.Looped id) (id : String) :
    next.router.Looped id := by
  cases beat with
  | rung pending => exact Scene.looped_work looped pending id
  | calm unnoticed => exact (looped id).calm unnoticed.toSameOutline unnoticed.alarms
  | passed => exact (looped id).congr rfl rfl ⟨rfl, fun _ _ _ => rfl, fun _ _ _ => rfl⟩

theorem Beat.sameOutline {scene next : Scene} {works : List Work}
    (beat : Beat scene works next) :
    Router.SameOutline scene.router next.router := by
  cases beat with
  | rung => exact Scene.sameOutline_work _ _ _
  | calm unnoticed => exact unnoticed.toSameOutline
  | passed => exact ⟨rfl, rfl, rfl, rfl, fun _ => rfl⟩

theorem Beats.sameOutline {start next : Scene} {works : List Work}
    (beats : Beats start works next) : Router.SameOutline start.router next.router := by
  induction beats with
  | refl => exact .refl start.router
  | tail _ beat induction => exact induction.trans beat.sameOutline

namespace Scene

/-- The work that is done while alarms ring that are due before an instant. -/
def ringing : Nat → (horizon : Nat) → Scene → List Work
  | 0, _, _ => []
  | count + 1, horizon, scene =>
      match nextAlarm? scene.router.agenda with
      | none => []
      | some (alarm, others) =>
          if alarm.due < horizon then
            let now := max scene.router.now alarm.due
            let work : Work :=
              { scene :=
                { scene with router := { scene.router with now, agenda := others } }
                alarm }
            work :: ringing count horizon work.after
          else []

def workOf (scene : Scene) : Operation → List Work
  | .check ref =>
      match (scene.send ref).value with
      | (_, none) => []
      | (scene, some (_, batch)) =>
          let horizon := scene.router.now + batch.duration
          ringing (scene.alarmsBefore horizon) horizon scene
  | .ring position => (scene.router.agenda[position]?.map (scene.work position)).toList
  | .advance limit => ringing (scene.alarmsBefore (limit + 1)) (limit + 1) scene
  | _ => []

def worked (start : Scene) : List Operation → List Work
  | [] => []
  | operation :: earlier => start.worked earlier ++ (start.after earlier).workOf operation

variable {scene : Scene}

theorem events_ring (count horizon : Nat) (scene : Scene) :
    (ring count horizon scene).events =
      (ringing count horizon scene).flatMap
        (fun work => (work.scene.wake work.alarm).events) := by
  induction count generalizing scene with
  | zero => rfl
  | succ count induction =>
      simp only [ring, ringing]
      cases nextAlarm? scene.router.agenda with
      | none => rfl
      | some next =>
          rcases next with ⟨alarm, others⟩
          dsimp only
          split
          · rw [List.flatMap_cons, Traced.events_bind, induction]
            rfl
          · rfl

theorem beats_ring (count horizon : Nat) (scene : Scene) :
    Beats scene (ringing count horizon scene) (ring count horizon scene).value := by
  induction count generalizing scene with
  | zero => exact .refl
  | succ count induction =>
      simp only [ring, ringing]
      cases next : nextAlarm? scene.router.agenda with
      | none => exact .refl
      | some found =>
          rcases found with ⟨alarm, others⟩
          rcases nextAlarm?_eq_some next with ⟨position, pending, rfl⟩
          dsimp only
          split
          · exact (Beats.single (.rung pending)).trans
              (induction (scene.work position alarm).after)
          · exact .refl

private theorem beats_ringAt (scene : Scene) (position : Nat) :
    Beats scene (scene.workOf (.ring position)) (scene.ringAt position).value := by
  simp only [workOf, ringAt]
  cases pending : scene.router.agenda[position]? with
  | none => exact .refl
  | some alarm => exact .single (.rung pending)

private theorem beats_advance (scene : Scene) (limit : Nat) :
    Beats scene (scene.workOf (.advance limit)) (scene.advance limit).value := by
  have rung := beats_ring (scene.alarmsBefore (limit + 1)) (limit + 1) scene
  have passed : Beats (ring (scene.alarmsBefore (limit + 1)) (limit + 1) scene).value []
      (scene.advance limit).value :=
    .single (.passed _)
  have both := rung.trans passed
  rwa [List.append_nil] at both

private theorem beats_checkOnce (scene : Scene) (ref : ClusterRef) :
    Beats scene (scene.workOf (.check ref)) (scene.checkOnce ref).value := by
  have same := router_send scene ref
  simp only [checkOnce, workOf, Traced.value_bind]
  generalize (scene.send ref).value = result at same ⊢
  rcases result with ⟨after, sent⟩
  dsimp only at same ⊢
  have sending : Beats scene [] after := by
    refine .unnoticed ?_
    rw [same]
    exact .refl _
  cases sent with
  | none => exact sending
  | some answer =>
      rcases answer with ⟨policy, batch⟩
      let horizon := after.router.now + batch.duration
      have rung := sending.trans (beats_ring (after.alarmsBefore horizon) horizon after)
      have passed : Beats (ring (after.alarmsBefore horizon) horizon after).value []
          (after.advanceBefore horizon).value :=
        .single (.passed _)
      let arrived := (after.advanceBefore horizon).value
      have judged : Beats arrived []
          { arrived with
            router := (arrived.router.judge ref policy batch.outcome).value } :=
        .unnoticed (Router.unnoticed_judge arrived.router ref policy batch.outcome)
      have all := (rung.trans passed).trans judged
      rwa [List.append_nil, List.append_nil] at all

theorem unnoticed_perform {operation : Operation} (quiet : operation.reconfigures = false)
    (atOnce : operation.takesTime = false) :
    Router.Unnoticed scene.router (scene.perform operation).value.router := by
  cases operation with
  | configure => cases quiet
  | applySnapshot => cases quiet
  | remove => cases quiet
  | pick ref request => exact Router.unnoticed_pickNow scene.router ref request
  | start ref request => exact Router.unnoticed_start scene.router ref request
  | finish number result => exact Router.unnoticed_finish scene.router number result
  | abandon number => exact Router.unnoticed_abandon scene.router number
  | acquire ref record =>
      simp only [perform]
      split
      · exact Router.unnoticed_acquire scene.router ref record
      · exact .refl scene.router
  | complete number outcome =>
      exact Router.unnoticed_endHeldLease scene.router number outcome
  | drop number => exact Router.unnoticed_endHeldLease scene.router number .canceled
  | report ref record outcome =>
      exact Router.unnoticed_observe scene.router ref record outcome
  | answer => exact .refl scene.router
  | check => cases atOnce
  | ring => cases atOnce
  | elapse => cases atOnce
  | advance => cases atOnce

theorem workOf_of_atOnce {operation : Operation} (atOnce : operation.takesTime = false) :
    scene.workOf operation = [] := by
  cases operation with
  | check => cases atOnce
  | ring => cases atOnce
  | elapse => cases atOnce
  | advance => cases atOnce
  | _ => rfl

theorem beats_perform {operation : Operation} (quiet : operation.reconfigures = false) :
    Beats scene (scene.workOf operation) (scene.perform operation).value := by
  cases takesTime : operation.takesTime with
  | false =>
      rw [workOf_of_atOnce takesTime]
      exact .unnoticed (unnoticed_perform quiet takesTime)
  | true =>
      cases operation with
      | check ref => exact beats_checkOnce scene ref
      | ring position => exact beats_ringAt scene position
      | elapse => exact .single (.passed _)
      | advance limit => exact beats_advance scene limit
      | _ => cases takesTime

theorem workOf_reconfiguration {operation : Operation}
    (reconfigures : operation.reconfigures = true) : scene.workOf operation = [] := by
  apply workOf_of_atOnce
  cases operation with
  | configure => rfl
  | applySnapshot => rfl
  | remove => rfl
  | _ => cases reconfigures

theorem sameOutline_perform {operation : Operation}
    (quiet : operation.reconfigures = false) :
    Router.SameOutline scene.router (scene.perform operation).value.router := by
  have beats : Beats scene _ _ := beats_perform quiet
  exact beats.sameOutline

end Scene

end Gateway
