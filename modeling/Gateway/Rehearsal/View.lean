import Gateway.Router.Timeline

namespace Gateway.Rehearsal

/-! What a rehearsal shows of the state of a gateway: for every cluster id that was
ever configured, the latest incarnation with its published lists. -/

structure DestinationView where
  id : String
  address : String
  requests : UInt64
  active : ActiveHealth
  passive : PassiveHealth
  deriving DecidableEq

structure ClusterView where
  requests : UInt64
  all : List DestinationView
  available : List String
  probing : Bool
  /-- For a removed cluster, whether it was shut down. -/
  removed : Option Bool
  deriving DecidableEq

def DestinationView.of (destination : Destination) : DestinationView where
  id := destination.id
  address := destination.config.address
  requests := destination.requests
  active := destination.health.active
  passive := destination.health.passive

def latestRef? (router : Router) (id : String) : Option ClusterRef :=
  match router.incarnations id with
  | [] => none
  | _ :: former => some { id, incarnation := former.length }

def ClusterView.of (router : Router) (id : String) (cluster : Cluster) : ClusterView where
  requests := cluster.requests
  all :=
    (cluster.candidates cluster.all).map (fun candidate => .of candidate.destination)
  available := (cluster.candidates cluster.available).map Candidate.id
  probing := router.probing.contains id
  removed := if router.registered.contains id then none else some cluster.shutDown

def view (router : Router) : List (String × ClusterView) :=
  router.clusters.keys.filterMap (fun id => do
    let ref ← latestRef? router id
    let cluster ← router.cluster? ref
    some (id, .of router id cluster))

end Gateway.Rehearsal
