import Gateway.Router.Probing

namespace Gateway.Router

/-! Configuring, replacing and removing clusters. -/

def applyModel (cluster : Cluster) (model : ClusterModel) : Effect Cluster := do
  let cluster ← { cluster with model }.reconcile model.config.destinations
  cluster.publish

def addCluster (router : Router) (cluster : Cluster) : Router × ClusterRef :=
  let former := router.incarnations cluster.id
  let ref := { id := cluster.id, incarnation := former.length }
  ({ router with
      clusters := router.clusters.insert cluster.id (former ++ [cluster])
      registered := router.registered.insert cluster.id former.length }, ref)

def install (router : Router) (model : ClusterModel) : Effect Router :=
  match router.registered? model.config.id with
  | some (ref, cluster) => do
      let changed ← applyModel cluster model
      Effect.tell (.clusterUpdated ref.id)
      (router.setCluster ref changed).updateProbing ref model (some cluster.model)
  | none => do
      let cluster ← applyModel (.ofModel model) model
      let (router, ref) := router.addCluster cluster
      Effect.tell (.clusterAdded ref.id)
      router.updateProbing ref model none

def configure (router : Router) (config : ClusterConfig) :
    Effect (Router × Except ConfigurationFault ClusterModel) :=
  match router.policies.resolve config with
  | .error fault => pure (router, .error fault)
  | .ok model => do
      let router ← router.install model
      pure (router, .ok model)

def cancelLoops (router : Router) (ref : ClusterRef) : Effect Router :=
  let count := ((router.cluster? ref).map (fun cluster => cluster.loops.length)).getD 0
  Traced.fold (fun router loop => router.cancelLoop ref loop) router (List.range count)

def shutDown (router : Router) (ref : ClusterRef) : Effect Router := do
  let router ← router.cancelLoops ref
  let router := router.mapCluster ref (fun cluster => { cluster with shutDown := true })
  pure (router.dropAlarms (fun alarm => alarm.cluster == ref))

def remove (router : Router) (id : String) : Effect (Router × Bool) :=
  match router.registeredRef? id with
  | none => pure (router, false)
  | some ref => do
      let router := { router with registered := router.registered.erase id }
      let router ← router.stopProbing ref
      let router ← router.shutDown ref
      Effect.tell (.clusterRemoved id)
      pure (router, true)

def configureEntry (state : Router × List ConfigurationFault) (config : ClusterConfig) :
    Effect (Router × List ConfigurationFault) := do
  let (router, faults) := state
  let (router, result) ← router.configure config
  match result with
  | .ok _ => pure (router, faults)
  | .error fault => do
      Effect.tell (.configurationKept config.id fault)
      pure (router, faults ++ [fault])

/-- Applies a list of configurations as the whole truth: clusters that it does
not mention are removed. -/
def applySnapshot (router : Router) (configs : List ClusterConfig) :
    Effect (Router × List ConfigurationFault) := do
  let (router, faults) ← Traced.fold configureEntry (router, []) configs
  let mentioned := configs.map ClusterConfig.id
  let unmentioned := router.registered.keys.filter (fun id => !mentioned.contains id)
  let router ←
    Traced.fold (fun router id => Prod.fst <$> router.remove id) router unmentioned
  pure (router, faults)

end Gateway.Router
