import Gateway.Router.Dispatch
import Gateway.Router.Timeline

namespace Gateway

/-! What can happen to a gateway, one operation at a time. The state after any
sequence of operations, in any order, is a reachable one. Time passes in two
ways: `advance` lets every alarm ring in order and in time, while `ring` and
`elapse` also let alarms ring late and out of order. -/

inductive Operation where
  | configure (config : ClusterConfig)
  | applySnapshot (configs : List ClusterConfig)
  | remove (id : String)
  /-- Picks a destination without sending the request there. -/
  | pick (cluster : ClusterRef) (request : Http.Request)
  | start (cluster : ClusterRef) (request : Http.Request)
  | finish (number : Nat) (result : Except ForwardFault Http.Response)
  /-- Drops a request that waits for its backend. -/
  | abandon (number : Nat)
  | acquire (cluster : ClusterRef) (record : Nat)
  | complete (number : Nat) (outcome : Outcome)
  /-- Ends a lease that was not completed. -/
  | drop (number : Nat)
  /-- Reports an outcome without a lease. -/
  | report (cluster : ClusterRef) (record : Nat) (outcome : Outcome)
  /-- Chooses what the probes of a destination will be answered. -/
  | answer (destination : String) (answers : List ProbeAnswer)
  /-- Probes a cluster by hand. -/
  | check (cluster : ClusterRef)
  | ring (position : Nat)
  | elapse (duration : Nat)
  | advance (limit : Nat)

namespace Router

def ownsLease (router : Router) (number : Nat) : Bool :=
  router.inFlight.any (fun request =>
    request.any (fun request => request.lease == number))

def hasRecord (router : Router) (ref : ClusterRef) (record : Nat) : Bool :=
  (router.cluster? ref).any (fun cluster => record < cluster.records.length)

def endHeldLease (router : Router) (number : Nat) (outcome : Outcome) : Effect Router :=
  if router.ownsLease number then pure router else router.endLease number outcome

def pickNow (router : Router) (ref : ClusterRef) (request : Http.Request) :
    Effect Router :=
  match router.cluster? ref with
  | none => pure router
  | some cluster => Prod.fst <$> router.pick ref cluster.model cluster request

end Router

namespace Scene

def withRouter (scene : Scene) (change : Effect Router) : Effect Scene := do
  let router ← change
  pure { scene with router }

/-- Lets one of the pending alarms ring. It is not before its time then. -/
def ringAt (scene : Scene) (position : Nat) : Effect Scene :=
  match scene.router.agenda[position]? with
  | none => pure scene
  | some alarm =>
      let now := max scene.router.now alarm.due
      let agenda := scene.router.agenda.eraseIdx position
      { scene with router := { scene.router with now, agenda } }.wake alarm

def perform (scene : Scene) : Operation → Effect Scene
  | .configure config => scene.withRouter (Prod.fst <$> scene.router.configure config)
  | .applySnapshot configs =>
      scene.withRouter (Prod.fst <$> scene.router.applySnapshot configs)
  | .remove id => scene.withRouter (Prod.fst <$> scene.router.remove id)
  | .pick ref request => scene.withRouter (scene.router.pickNow ref request)
  | .start ref request => scene.withRouter (Prod.fst <$> scene.router.start ref request)
  | .finish number result =>
      scene.withRouter (Prod.fst <$> scene.router.finish number result)
  | .abandon number => scene.withRouter (scene.router.abandon number)
  | .acquire ref record =>
      if scene.router.hasRecord ref record then
        pure { scene with router := (scene.router.acquire ref record).1 }
      else pure scene
  | .complete number outcome =>
      scene.withRouter (scene.router.endHeldLease number outcome)
  | .drop number => scene.withRouter (scene.router.endHeldLease number .canceled)
  | .report ref record outcome =>
      scene.withRouter (scene.router.observe ref record outcome)
  | .answer destination answers =>
      pure { scene with script := scene.script.insert destination answers }
  | .check ref => scene.checkOnce ref
  | .ring position => scene.ringAt position
  | .elapse duration =>
      pure
        { scene with router := { scene.router with now := scene.router.now + duration } }
  | .advance limit => scene.advance limit

def fresh (policies : Policies) (background : Bool) : Scene where
  router := { policies, background }

def after (start : Scene) : List Operation → Scene
  | [] => start
  | operation :: earlier => ((start.after earlier).perform operation).value

/-! A small gateway for runs that are followed by hand: two destinations, the first
of which is excluded by its first failure. -/

def sampleConfig : ClusterConfig where
  id := "cluster"
  healthCheck := { passive := { enabled := true, reactivationPeriod := 30000 } }
  destinations :=
    .ofList [("a", { address := "http://10.0.0.1" }),
      ("b", { address := "http://10.0.0.2" })]
  metadata := .ofList [(PassivePolicy.minimalTotalKey, "1")]

def probedConfig : ClusterConfig :=
  { sampleConfig with
    healthCheck :=
      { sampleConfig.healthCheck with active := { enabled := true, interval := 10000 } } }

def sampleRef : ClusterRef := { id := "cluster", incarnation := 0 }

def sample : Scene :=
  fresh (.builtin (.ofSequence []) (.encrypting (List.replicate Protector.keySize 0)))
    true

end Scene

end Gateway
