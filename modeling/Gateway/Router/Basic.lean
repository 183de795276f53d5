import Gateway.Cluster.Observation
import Gateway.Cluster.Picking
import Gateway.Cluster.Reconciliation

namespace Gateway

/-! The state of a whole gateway. A cluster that is configured again after its
removal is a new incarnation; the former ones are kept, since requests may still
be under way there. -/

structure ClusterRef where
  id : String
  incarnation : Nat
  deriving Repr, DecidableEq

/-- How a batch of probes ends: with a result for every record that was probed,
or with a crash of one of the probes. -/
inductive BatchEnd where
  | completed (results : List (Nat × ProbeOutcome))
  | crashed
  deriving Repr, DecidableEq

/-! Background work waits for its time. Probe loops are numbered within their
cluster. -/

inductive Wakeup where
  | reactivate (exclusion : Exclusion)
  | beginProbing (loop : Nat)
  | tick (loop : Nat)
  | settle (loop : Nat) (policy : ActivePolicy) (outcome : BatchEnd)

def Wakeup.loop? : Wakeup → Option Nat
  | .reactivate _ => none
  | .beginProbing loop | .tick loop | .settle loop _ _ => some loop

structure Alarm where
  due : Nat
  cluster : ClusterRef
  wakeup : Wakeup

/-- The alarm that is due first, and the others. Of alarms due together the one
that was set first comes first. -/
def nextAlarm? : List Alarm → Option (Alarm × List Alarm)
  | [] => none
  | alarm :: rest =>
      match nextAlarm? rest with
      | none => some (alarm, [])
      | some (next, others) =>
          if next.due < alarm.due then some (next, alarm :: others)
          else some (alarm, rest)

/-- A lease counts one request on a cluster and on one of its records. -/
structure Lease where
  cluster : ClusterRef
  record : Nat
  deriving Repr, DecidableEq

/-- A request that waits for its backend, with the model it was started under. -/
structure InFlight where
  cluster : ClusterRef
  model : ClusterModel
  candidate : Candidate
  status : Option AffinityStatus
  lease : Nat
  backend : Except ForwardFault Http.Request

structure Router where
  policies : Policies
  /-- Whether background work can run at all. -/
  background : Bool := true
  now : Nat := 0
  draws : UInt64 := 0
  /-- How many affinity keys were handed out. -/
  serial : Nat := 0
  clusters : Keyed (List Cluster) := {}
  /-- The incarnation of every cluster that is configured. -/
  registered : Keyed Nat := {}
  /-- The probe loop that the registry keeps for a configured cluster. -/
  probing : Keyed Nat := {}
  agenda : List Alarm := []
  leases : List (Option Lease) := []
  inFlight : List (Option InFlight) := []

namespace Router

def incarnations (router : Router) (id : String) : List Cluster :=
  (router.clusters.get? id).getD []

def cluster? (router : Router) (ref : ClusterRef) : Option Cluster :=
  (router.incarnations ref.id)[ref.incarnation]?

def setCluster (router : Router) (ref : ClusterRef) (cluster : Cluster) : Router :=
  { router with
    clusters :=
      router.clusters.insert ref.id
        ((router.incarnations ref.id).set ref.incarnation cluster) }

def registeredRef? (router : Router) (id : String) : Option ClusterRef :=
  (router.registered.get? id).map (fun incarnation => { id, incarnation })

def registered? (router : Router) (id : String) : Option (ClusterRef × Cluster) := do
  let ref ← router.registeredRef? id
  let cluster ← router.cluster? ref
  some (ref, cluster)

def mapCluster (router : Router) (ref : ClusterRef) (change : Cluster → Cluster) :
    Router :=
  match router.cluster? ref with
  | none => router
  | some cluster => router.setCluster ref (change cluster)

def withCluster {α : Type} (router : Router) (ref : ClusterRef) (absent : α)
    (step : Cluster → Effect (Cluster × α)) : Effect (Router × α) :=
  match router.cluster? ref with
  | none => pure (router, absent)
  | some cluster => do
      let (cluster, value) ← step cluster
      pure (router.setCluster ref cluster, value)

def setAlarm (router : Router) (alarm : Alarm) : Router :=
  { router with agenda := router.agenda ++ [alarm] }

def dropAlarms (router : Router) (drop : Alarm → Bool) : Router :=
  { router with agenda := router.agenda.filter (fun alarm => !drop alarm) }

end Router

end Gateway
