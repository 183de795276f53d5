import Gateway.Proofs.Cluster.Observation
import Gateway.Proofs.Resolution
import Gateway.Proofs.Router.Basic
import Gateway.Router.Timeline
import Mathlib.Logic.Relation

namespace Gateway

/-! What a gateway does of itself, apart from counting requests and hearing of
their outcomes: clusters are configured, probed and shut down, alarms are set and
ring, and time passes. -/

namespace Cluster

inductive Change (policies : Policies) (cluster : Cluster) : Cluster → Prop
  | configured {model : ClusterModel}
  (accepted : policies.resolve model.config = .ok model) :
      Change policies cluster (Router.applyModel cluster model).value
  | probed {policy : ActivePolicy} (known : policy ∈ policies.active.entries)
      (results : List (Nat × ProbeOutcome)) :
      Change policies cluster (cluster.settleProbes policy results).value
  | turned (cursor : UInt64) : Change policies cluster { cluster with cursor }
  | looped (loops : List ProbeLoop) : Change policies cluster { cluster with loops }

/-- Two states of a cluster that count the same requests. -/
structure SameRequests (before after : Cluster) : Prop where
  requests : after.requests = before.requests
  requestsOf : ∀ number, after.requestsOf number = before.requestsOf number

theorem OnlyHealth.sameRequests {before after : Cluster}
    (frame : OnlyHealth before after) :
    SameRequests before after :=
  ⟨frame.requests, frame.requestsOf⟩

/-! A new model leaves everything as it was that does not follow from it. -/

theorem model_applyModel (cluster : Cluster) (model : ClusterModel) :
    (Router.applyModel cluster model).value.model = model := by
  simp only [Router.applyModel, reconcile]
  split <;> rfl

theorem shutDown_applyModel (cluster : Cluster) (model : ClusterModel) :
    (Router.applyModel cluster model).value.shutDown = cluster.shutDown := by
  simp only [Router.applyModel, reconcile]
  split <;> rfl

theorem healthOf_applyModel (cluster : Cluster) (model : ClusterModel) (number : Nat) :
    (Router.applyModel cluster model).value.healthOf number =
      cluster.healthOf number := by
  simp only [Router.applyModel, reconcile]
  split
  · rfl
  · exact healthAt_enroll cluster.current cluster.records _ number

theorem sameRequests_applyModel (cluster : Cluster) (model : ClusterModel) :
    SameRequests cluster (Router.applyModel cluster model).value := by
  simp only [Router.applyModel, reconcile]
  split
  · exact ⟨rfl, fun _ => rfl⟩
  · exact ⟨rfl, requestsAt_enroll cluster.current cluster.records _⟩

namespace Change

variable {policies : Policies} {before after : Cluster}

theorem accepted (change : before.Change policies after)
    (accepted : policies.resolve before.model.config = .ok before.model) :
    policies.resolve after.model.config = .ok after.model := by
  cases change with
  | configured resolved =>
      rw [model_applyModel]
      exact resolved
  | probed =>
      rw [(onlyHealth_settleProbes _ _ _).model]
      exact accepted
  | turned => exact accepted
  | looped => exact accepted

theorem shutDown (change : before.Change policies after) :
    after.shutDown = before.shutDown := by
  cases change with
  | configured => exact shutDown_applyModel _ _
  | probed => exact (onlyHealth_settleProbes _ _ _).shutDown
  | turned => rfl
  | looped => rfl

theorem sameRequests (change : before.Change policies after) :
    SameRequests before after := by
  cases change with
  | configured => exact sameRequests_applyModel _ _
  | probed => exact (onlyHealth_settleProbes _ _ _).sameRequests
  | turned => exact ⟨rfl, fun _ => rfl⟩
  | looped => exact ⟨rfl, fun _ => rfl⟩

theorem probed_of_builtin (change : before.Change policies after)
    (builtin : policies.active.entries = ActivePolicy.builtin) : Probed before after := by
  cases change with
  | @configured model _ =>
      have same := healthOf_applyModel before model
      exact ⟨fun number => congrArg _ (same number), fun number =>
        congrArg _ (same number), fun number => congrArg _ (same number)⟩
  | probed known =>
      rw [builtin] at known
      rcases List.mem_singleton.1 known with rfl
      exact probed_settleProbes _ _
  | turned => exact ⟨fun _ => rfl, fun _ => rfl, fun _ => rfl⟩
  | looped => exact ⟨fun _ => rfl, fun _ => rfl, fun _ => rfl⟩

end Change

end Cluster

namespace Router

def close (router : Router) (ref : ClusterRef) : Router :=
  router.mapCluster ref (fun cluster => { cluster with shutDown := true })

def eraseAlarm (router : Router) (position : Nat) : Router :=
  { router with agenda := router.agenda.eraseIdx position }

/-- One such move. Only a registered cluster keeps its background work, and the
alarms that are set and dropped here belong to probe loops. -/
inductive Move (policies : Policies) (router : Router) : Router → Prop
  | change {ref : ClusterRef} {before after : Cluster}
      (present : router.cluster? ref = some before)
      (changed : before.Change policies after) :
      Move policies router (router.setCluster ref after)
  | add {model : ClusterModel} (accepted : policies.resolve model.config = .ok model) :
      Move policies router (router.addCluster (applyModel (.ofModel model) model).value).1
  | unregister (id : String) :
      Move policies router { router with registered := router.registered.erase id }
  | shutDown {ref : ClusterRef} (unregistered : router.registeredRef? ref.id = none) :
      Move policies router
        ((router.close ref).dropAlarms (fun alarm => alarm.cluster == ref))
  | note (probing : Keyed Nat) (draws : UInt64) (serial : Nat) :
      Move policies router { router with probing, draws, serial }
  | set {alarm : Alarm} (looping : alarm.wakeup.loop? ≠ none)
      (known : ∀ loop policy outcome, alarm.wakeup = .settle loop policy outcome →
        policy ∈ policies.active.entries) :
      Move policies router (router.setAlarm alarm)
  | drop {drop : Alarm → Bool}
      (looping : ∀ alarm, drop alarm = true → alarm.wakeup.loop? ≠ none) :
      Move policies router (router.dropAlarms drop)
  | wait {later : Nat} (order : router.now ≤ later) :
      Move policies router { router with now := later }
  | ring {position : Nat} {alarm : Alarm}
      (pending : router.agenda[position]? = some alarm)
      (looping : alarm.wakeup.loop? ≠ none) :
      Move policies router (router.eraseAlarm position)
  | reactivate {position : Nat} {alarm : Alarm} {exclusion : Exclusion}
      (pending : router.agenda[position]? = some alarm)
      (wakeup : alarm.wakeup = .reactivate exclusion) (due : alarm.due ≤ router.now) :
      Move policies router
        ((router.eraseAlarm position).mapCluster alarm.cluster
          (fun cluster => (cluster.reactivate exclusion).value))

abbrev Moves (policies : Policies) : Router → Router → Prop :=
  Relation.ReflTransGen (Move policies)

variable {policies : Policies} {router next : Router}

/-- What is known about the parts of a gateway: their policies come from the
tables, and registered clusters are there and at work. -/
structure Known (policies : Policies) (router : Router) : Prop where
  tables : router.policies = policies
  models : ∀ ref cluster, router.cluster? ref = some cluster →
    policies.resolve cluster.model.config = .ok cluster.model
  alarms : ∀ alarm ∈ router.agenda, ∀ loop policy outcome,
    alarm.wakeup = .settle loop policy outcome → policy ∈ policies.active.entries
  registered : ∀ id ref, router.registeredRef? id = some ref →
    ∃ cluster, router.cluster? ref = some cluster ∧ cluster.shutDown = false

/-- Whether all passive policies in force are builtin ones. -/
def Regular (router : Router) : Prop :=
  ∀ ref cluster, router.cluster? ref = some cluster → cluster.Regular

theorem Known.regular {source : RandomSource} {protector : Protector}
    (known : Known (.builtin source protector) router) : router.Regular :=
  fun ref cluster present =>
    Policies.passive_mem_builtin (known.models ref cluster present)

theorem cluster?_fresh (policies : Policies) (background : Bool) (ref : ClusterRef) :
    cluster? { policies, background } ref = none := rfl

theorem known_fresh (policies : Policies) (background : Bool) :
    Known policies { policies, background } where
  tables := rfl
  models := by
    intro ref cluster present
    rw [cluster?_fresh] at present
    cases present
  alarms := by
    intro alarm pending
    cases pending
  registered := by
    intro id ref named
    have missing : registeredRef? { policies, background } id = none := rfl
    rw [missing] at named
    cases named

/-! What no move touches, and what every move keeps. -/

theorem mapCluster_fields (router : Router) (ref : ClusterRef)
    (change : Cluster → Cluster) :
    ∃ clusters, router.mapCluster ref change = { router with clusters } := by
  unfold mapCluster
  split
  · exact ⟨router.clusters, rfl⟩
  · exact ⟨_, rfl⟩

/-- Two states of a gateway with the same requests under way. -/
structure Frame (before after : Router) : Prop where
  policies : after.policies = before.policies
  background : after.background = before.background
  leases : after.leases = before.leases
  inFlight : after.inFlight = before.inFlight
  order : before.now ≤ after.now

theorem Frame.refl (router : Router) : Frame router router :=
  ⟨rfl, rfl, rfl, rfl, Nat.le_refl _⟩

theorem Frame.trans {before middle after : Router} (first : Frame before middle)
    (last : Frame middle after) : Frame before after where
  policies := last.policies.trans first.policies
  background := last.background.trans first.background
  leases := last.leases.trans first.leases
  inFlight := last.inFlight.trans first.inFlight
  order := Nat.le_trans first.order last.order

theorem Frame.mapCluster (router : Router) (ref : ClusterRef)
    (change : Cluster → Cluster) :
    Frame router (router.mapCluster ref change) := by
  rcases mapCluster_fields router ref change with ⟨clusters, same⟩
  rw [same]
  exact ⟨rfl, rfl, rfl, rfl, Nat.le_refl _⟩

theorem Move.frame (move : Move policies router next) : Frame router next := by
  cases move with
  | wait order => exact ⟨rfl, rfl, rfl, rfl, order⟩
  | shutDown =>
      exact (Frame.mapCluster router _ _).trans ⟨rfl, rfl, rfl, rfl, Nat.le_refl _⟩
  | @reactivate position =>
      have erased : Frame router (router.eraseAlarm position) :=
        ⟨rfl, rfl, rfl, rfl, Nat.le_refl _⟩
      exact erased.trans (Frame.mapCluster _ _ _)
  | _ => exact ⟨rfl, rfl, rfl, rfl, Nat.le_refl _⟩

theorem Moves.frame (moves : Moves policies router next) : Frame router next := by
  induction moves with
  | refl => exact .refl router
  | tail _ move induction => exact induction.trans move.frame

theorem registeredRef?_addCluster (router : Router) (cluster : Cluster) (id : String) :
    (router.addCluster cluster).1.registeredRef? id =
      if id = cluster.id then some (router.addCluster cluster).2
      else router.registeredRef? id := by
  simp only [registeredRef?, addCluster, Keyed.get?_insert]
  split
  · rename_i same
    rw [same]
    rfl
  · rfl

theorem id_of_registeredRef? {id : String} {ref : ClusterRef}
    (named : router.registeredRef? id = some ref) : ref.id = id := by
  rcases Option.map_eq_some_iff.1 named with ⟨incarnation, -, rfl⟩
  rfl

theorem Known.setCluster {router : Router} (known : Known policies router)
    {ref : ClusterRef} {before after : Cluster}
    (present : router.cluster? ref = some before)
    (working : before.shutDown = false → after.shutDown = false)
    (accepted : policies.resolve after.model.config = .ok after.model) :
    Known policies (router.setCluster ref after) where
  tables := known.tables
  models := by
    intro other found there
    rw [cluster?_setCluster present] at there
    split at there
    · rw [Option.some.injEq] at there
      rw [← there]
      exact accepted
    · exact known.models other found there
  alarms := known.alarms
  registered := by
    intro id other named
    rcases known.registered id other named with ⟨cluster, there, atWork⟩
    rw [cluster?_setCluster present]
    split
    · rename_i same
      rw [same, present, Option.some.injEq] at there
      exact ⟨after, rfl, working (there ▸ atWork)⟩
    · exact ⟨cluster, there, atWork⟩

theorem Known.mapCluster {router : Router} (known : Known policies router)
    (ref : ClusterRef) {change : Cluster → Cluster}
    (shutDown : ∀ cluster, (change cluster).shutDown = cluster.shutDown)
    (model : ∀ cluster, (change cluster).model = cluster.model) :
    Known policies (router.mapCluster ref change) := by
  unfold Router.mapCluster
  split
  · exact known
  · rename_i cluster present
    refine known.setCluster present (fun working => (shutDown cluster).trans working) ?_
    rw [model]
    exact known.models ref cluster present

theorem Known.agenda {router : Router} (known : Known policies router)
    {agenda : List Alarm} (fewer : ∀ alarm ∈ agenda, alarm ∈ router.agenda) :
    Known policies { router with agenda } where
  tables := known.tables
  models := known.models
  alarms := fun alarm pending => known.alarms alarm (fewer alarm pending)
  registered := known.registered

theorem Known.add {router : Router} (known : Known policies router) {cluster : Cluster}
    (working : cluster.shutDown = false)
    (accepted : policies.resolve cluster.model.config = .ok cluster.model) :
    Known policies (router.addCluster cluster).1 where
  tables := known.tables
  models := by
    intro ref found there
    rw [cluster?_addCluster] at there
    split at there
    · rw [Option.some.injEq] at there
      rw [← there]
      exact accepted
    · exact known.models ref found there
  alarms := known.alarms
  registered := by
    intro id ref named
    rw [registeredRef?_addCluster] at named
    rw [cluster?_addCluster]
    split at named
    · rw [Option.some.injEq] at named
      exact ⟨cluster, if_pos named.symm, working⟩
    · rename_i different
      rcases known.registered id ref named with ⟨other, there, atWork⟩
      have old : ref ≠ (router.addCluster cluster).2 := by
        intro same
        rw [same, cluster?_added_eq_none] at there
        cases there
      exact ⟨other, (if_neg old).trans there, atWork⟩

private theorem Known.setShutDown {router : Router} (known : Known policies router)
    {ref : ClusterRef} {cluster : Cluster} (present : router.cluster? ref = some cluster)
    (unregistered : router.registeredRef? ref.id = none) :
    Known policies (router.setCluster ref { cluster with shutDown := true }) where
  tables := known.tables
  models := by
    intro other found there
    rw [cluster?_setCluster present] at there
    split at there
    · rw [Option.some.injEq] at there
      rw [← there]
      exact known.models ref cluster present
    · exact known.models other found there
  alarms := known.alarms
  registered := by
    intro id other named
    have named : router.registeredRef? id = some other := named
    rcases known.registered id other named with ⟨found, there, working⟩
    have different : other ≠ ref := by
      intro same
      rw [← id_of_registeredRef? named, same, unregistered] at named
      cases named
    rw [cluster?_setCluster present, if_neg different]
    exact ⟨found, there, working⟩

theorem Known.move (known : Known policies router) (move : Move policies router next) :
    Known policies next := by
  cases move with
  | change present changed =>
      exact known.setCluster present (fun working => changed.shutDown.trans working)
        (changed.accepted (known.models _ _ present))
  | add accepted =>
      refine known.add (Cluster.shutDown_applyModel _ _) ?_
      rw [Cluster.model_applyModel]
      exact accepted
  | unregister id =>
      refine ⟨known.tables, known.models, known.alarms, fun other ref named => ?_⟩
      refine known.registered other ref ?_
      simp only [registeredRef?, Keyed.get?_erase] at named
      split at named
      · cases named
      · exact named
  | shutDown unregistered =>
      refine Known.agenda ?_ fun _ pending => (List.mem_filter.1 pending).1
      unfold close Router.mapCluster
      split
      · exact known
      · rename_i cluster present
        exact known.setShutDown present unregistered
  | note => exact ⟨known.tables, known.models, known.alarms, known.registered⟩
  | @set alarm _ settles =>
      refine ⟨known.tables, known.models, fun other pending => ?_, known.registered⟩
      rcases List.mem_append.1 pending with old | new
      · exact known.alarms other old
      · rw [List.mem_singleton.1 new]
        exact settles
  | drop => exact known.agenda fun _ pending => (List.mem_filter.1 pending).1
  | wait => exact ⟨known.tables, known.models, known.alarms, known.registered⟩
  | ring => exact known.agenda fun _ pending => List.mem_of_mem_eraseIdx pending
  | reactivate =>
      refine (known.agenda fun _ pending =>
        List.mem_of_mem_eraseIdx pending).mapCluster _ ?_ ?_
      · intro cluster
        exact (Cluster.onlyHealth_reactivate cluster _).shutDown
      · intro cluster
        exact (Cluster.onlyHealth_reactivate cluster _).model

theorem Known.moves (known : Known policies router) (moves : Moves policies router next) :
    Known policies next := by
  induction moves with
  | refl => exact known
  | tail _ move induction => exact induction.move move

end Router

end Gateway
