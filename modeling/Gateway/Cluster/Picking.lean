import Gateway.Cluster.Basic

namespace Gateway

/-! Choosing the destination of a request: affinity narrows the available
destinations down to candidates, and the load balancer takes one of several. -/

inductive DispatchFault where
  | routing (fault : RoutingFault) (response : Http.Response)
  | misuse (fault : UsageFault)
  deriving Repr, DecidableEq

namespace DispatchFault

def unavailable : DispatchFault :=
  .routing .noAvailableDestinations
    (Http.Reply.ofStatus RoutingFault.noAvailableDestinations.status)

def message : DispatchFault → String
  | .routing fault _ => fault.message
  | .misuse fault => fault.message

def response : DispatchFault → Effect Http.Response
  | .routing _ response => pure response
  | .misuse fault => do
      Effect.tell (.policyMisused fault)
      pure Http.Reply.internalServerError

end DispatchFault

structure Selection where
  candidates : List Candidate
  status : Option AffinityStatus

structure Picked where
  candidate : Candidate
  status : Option AffinityStatus

namespace Cluster

def narrow (cluster : Cluster) (request : Http.Request) (candidates : List Candidate) :
    Effect (Except UsageFault AffinityResult) :=
  match cluster.model.affinity with
  | none => pure (.error (.affinityDisabled cluster.id))
  | some affinity => affinity.policy.find cluster.id affinity.config request candidates

def afterFailure (cluster : Cluster) (affinity : AffinityModel) (status : AffinityStatus)
    (fault : RoutingFault) : Effect (Except DispatchFault Selection) := do
  match ← affinity.failurePolicy.handle cluster.id status with
  | .error misuse => pure (.error (.misuse misuse))
  | .ok (.respond response) => pure (.error (.routing fault response))
  | .ok .continueRouting =>
      pure (.ok
        { candidates := cluster.candidates cluster.available, status := some status })

def select (cluster : Cluster) (model : ClusterModel) (request : Http.Request) :
    Effect (Except DispatchFault Selection) :=
  let available := cluster.candidates cluster.available
  match model.affinity with
  | none => pure (.ok { candidates := available, status := none })
  | some affinity => do
      match ← affinity.policy.find cluster.id affinity.config request available with
      | .error misuse => pure (.error (.misuse misuse))
      | .ok result =>
          match result.status.routingFault? with
          | none =>
              pure (.ok { candidates := result.candidates, status := some result.status })
          | some fault => cluster.afterFailure affinity result.status fault

/-- A single candidate is taken as it is; only a choice among several moves the
load balancer on. -/
def balance (balancer : LoadBalancer) (turn : Turn) :
    List Candidate → Option Candidate × Turn
  | [] => (none, turn)
  | [single] => (some single, turn)
  | candidates => balancer.pick turn candidates

def pick (cluster : Cluster) (model : ClusterModel) (request : Http.Request)
    (turn : Turn) :
    Effect (Except DispatchFault Picked × Turn) := do
  match ← cluster.select model request with
  | .error fault => pure (.error fault, turn)
  | .ok selection =>
      let (chosen, turn) := balance model.loadBalancing turn selection.candidates
      match chosen with
      | some candidate => do
          Effect.tellOf cluster.id (.picked candidate.id)
          pure (.ok { candidate, status := selection.status }, turn)
      | none => do
          Effect.tellOf cluster.id .nothingAvailable
          pure (.error .unavailable, turn)

end Cluster

end Gateway
