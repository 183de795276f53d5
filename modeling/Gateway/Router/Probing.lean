import Gateway.Router.Basic

namespace Gateway.Router

/-! Starting and stopping the probe loops of clusters. -/

/-- Starts one more loop on a cluster; its first tick is due at once. On a cluster
that is shut down the loop stops before that. The number of the new loop is
returned, if background work can run. -/
def spawnProbing (router : Router) (ref : ClusterRef) : Effect (Router × Option Nat) :=
  if router.background then
    match router.cluster? ref with
    | none => pure (router, none)
    | some cluster =>
        let loop := cluster.loops.length
        let added : ProbeLoop := { cancelled := cluster.shutDown }
        let router :=
          router.setCluster ref { cluster with loops := cluster.loops ++ [added] }
        if cluster.shutDown then do
          Effect.tellOf ref.id .probingStarted
          Effect.tellOf ref.id .probingStopped
          pure (router, some loop)
        else
          pure
            (router.setAlarm
              { due := router.now, cluster := ref, wakeup := .beginProbing loop },
              some loop)
  else do
    Effect.tellOf ref.id .probingUnavailable
    pure (router, none)

def belongsToLoop (ref : ClusterRef) (loop : Nat) (alarm : Alarm) : Bool :=
  alarm.cluster == ref && alarm.wakeup.loop? == some loop

/-- Stops a loop, whatever it waits for. A loop that was stopped before stays so. -/
def cancelLoop (router : Router) (ref : ClusterRef) (loop : Nat) : Effect Router :=
  match (router.cluster? ref).bind (fun cluster => cluster.loops[loop]?) with
  | some { cancelled := false } => do
      Effect.tellOf ref.id .probingStopped
      let router := router.mapCluster ref (fun cluster =>
        { cluster with loops := cluster.loops.set loop { cancelled := true } })
      pure (router.dropAlarms (belongsToLoop ref loop))
  | _ => pure router

def stopProbing (router : Router) (ref : ClusterRef) : Effect Router :=
  match router.probing.get? ref.id with
  | none => pure router
  | some loop => do
      let router ← router.cancelLoop ref loop
      pure { router with probing := router.probing.erase ref.id }

def startProbing (router : Router) (ref : ClusterRef) : Effect Router := do
  let (router, loop) ← router.spawnProbing ref
  match loop with
  | none => pure router
  | some loop => pure { router with probing := router.probing.insert ref.id loop }

/-- Keeps the loop of a cluster in line with its model: none without active
checks, and a new one whenever their settings change. -/
def updateProbing (router : Router) (ref : ClusterRef) (model : ClusterModel)
    (previous : Option ClusterModel) : Effect Router :=
  let settings := model.config.healthCheck.active
  let unchanged :=
    previous.any (fun previous => previous.config.healthCheck.active == settings)
  if model.active.isNone then router.stopProbing ref
  else if unchanged && router.probing.contains ref.id then pure router
  else do
    let router ← router.stopProbing ref
    router.startProbing ref

end Gateway.Router
