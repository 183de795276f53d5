import Gateway.Policies

namespace Gateway

/-! The live state of a cluster. Every destination record that the cluster ever
had is kept, and a record is known by its number, its position among them; the
current configuration names some of the records by id. The published lists are
what requests are routed by: they change only when they are published anew. -/

structure ProbeLoop where
  cancelled : Bool := false
  deriving Repr, DecidableEq

structure Cluster where
  id : String
  model : ClusterModel
  records : List Destination := []
  current : Keyed Nat := {}
  all : List Nat := []
  available : List Nat := []
  requests : UInt64 := 0
  cursor : UInt64 := 0
  loops : List ProbeLoop := []
  shutDown : Bool := false

namespace Cluster

def ofModel (model : ClusterModel) : Cluster where
  id := model.config.id
  model := model

def modifyRecord (cluster : Cluster) (record : Nat) (change : Destination → Destination) :
    Cluster :=
  { cluster with records := cluster.records.modify record change }

def candidate? (cluster : Cluster) (record : Nat) : Option Candidate :=
  cluster.records[record]?.map (fun destination => { record, destination })

def candidates (cluster : Cluster) (records : List Nat) : List Candidate :=
  records.filterMap cluster.candidate?

def destination? (cluster : Cluster) (id : String) : Option Candidate :=
  (cluster.current.get? id).bind cluster.candidate?

def incrementRequests (cluster : Cluster) : Cluster :=
  { cluster with requests := cluster.requests + 1 }

def decrementRequests (cluster : Cluster) : Cluster :=
  { cluster with requests := decrementCount cluster.requests }

/-- Publishes the current records, and which of them are available, as the
availability policy sees them now. -/
def publish (cluster : Cluster) : Effect Cluster := do
  let all := cluster.current.values
  let available ←
    cluster.model.availability.select cluster.model.config (cluster.candidates all)
  pure { cluster with all, available := available.map Candidate.record }

end Cluster

end Gateway
