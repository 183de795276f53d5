import Gateway.Router.Basic

namespace Gateway.Router

/-! Leases, and the reports that they end with. -/

def scheduleReactivation (router : Router) (ref : ClusterRef) (exclusion : Exclusion) :
    Effect Router :=
  match router.cluster? ref with
  | none => pure router
  | some cluster =>
      if router.background then
        if cluster.shutDown then pure router
        else
          pure (router.setAlarm
            { due := router.now + exclusion.period
              cluster := ref
              wakeup := .reactivate exclusion })
      else
        match cluster.records[exclusion.record]? with
        | none => pure router
        | some destination => do
            Effect.tellOf ref.id (.reactivationUnavailable destination.id)
            pure router

def observe (router : Router) (ref : ClusterRef) (record : Nat) (outcome : Outcome) :
    Effect Router := do
  let (router, exclusion) ←
    router.withCluster ref none (fun cluster => cluster.observe router.now record outcome)
  match exclusion with
  | none => pure router
  | some exclusion => router.scheduleReactivation ref exclusion

def acquire (router : Router) (ref : ClusterRef) (record : Nat) : Router × Nat :=
  let router := router.mapCluster ref (fun cluster =>
    cluster.incrementRequests.modifyRecord record Destination.increment)
  ({ router with leases := router.leases ++ [some { cluster := ref, record }] },
    router.leases.length)

def lease? (router : Router) (number : Nat) : Option Lease :=
  router.leases[number]?.join

/-- Ends a lease: one report, and the request is counted no more. A lease that has
ended stays so. -/
def endLease (router : Router) (number : Nat) (outcome : Outcome) : Effect Router :=
  match router.lease? number with
  | none => pure router
  | some lease => do
      let router ← router.observe lease.cluster lease.record outcome
      let router := router.mapCluster lease.cluster (fun cluster =>
        (cluster.modifyRecord lease.record Destination.decrement).decrementRequests)
      pure { router with leases := router.leases.set number none }

end Gateway.Router
