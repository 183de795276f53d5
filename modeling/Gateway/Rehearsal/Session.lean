import Gateway.Rehearsal.Step
import Gateway.Rehearsal.View

namespace Gateway.Rehearsal

/-! A rehearsal runs a script of steps on a gateway whose backends, destinations
and clock do as the script says. -/

structure Session where
  scene : Scene
  leases : Keyed (Nat × Lease) := {}
  requests : Keyed Router.Started := {}
  tasks : Keyed (ClusterRef × Nat) := {}
  /-- Whether issued keys are encrypted, so that the script sees marks instead. -/
  masking : Bool := false
  /-- The encrypted keys issued so far. -/
  keys : List String := []

namespace Session

def start (policies : Policies) (background masking : Bool) : Session where
  scene := { router := { policies, background } }
  masking := masking

def router (session : Session) : Router := session.scene.router

def withRouter (session : Session) (router : Router) : Session :=
  { session with scene := { session.scene with router } }

abbrev Outcome := Effect (Session × StepResult)

def done (session : Session) (result : StepResult) : Outcome := pure (session, result)

def repeated {σ α : Type} (action : σ → Effect (σ × α)) : Nat → σ → Effect (σ × List α)
  | 0, state => pure (state, [])
  | times + 1, state => do
      let (state, value) ← action state
      let (state, values) ← repeated action times state
      pure (state, value :: values)

/-! Names. -/

def onCluster (session : Session) (id : String) (act : ClusterRef → Cluster → Outcome) :
    Outcome :=
  match latestRef? session.router id with
  | none => session.done (.mistake .cluster)
  | some ref =>
      match session.router.cluster? ref with
      | none => session.done (.mistake .cluster)
      | some cluster => act ref cluster

def onDestination (session : Session) (id destination : String)
    (act : ClusterRef → Candidate → Outcome) : Outcome :=
  session.onCluster id (fun ref cluster =>
    match cluster.destination? destination with
    | none => session.done (.mistake .destination)
    | some candidate => act ref candidate)

def current? (router : Router) (ref : ClusterRef) (record : Nat) : Option Destination :=
  (router.cluster? ref).bind (fun cluster => cluster.records[record]?)

def leaseView? (router : Router) (lease : Lease) : Option LeaseView :=
  (current? router lease.cluster lease.record).map (fun destination =>
    { destination := destination.id
      requests := destination.requests
      passive := destination.health.passive })

/-! Configuration. -/

def apply (session : Session) (config : ClusterConfig) : Outcome := do
  let (router, result) ← session.router.configure config
  (session.withRouter router).done (.applied result)

def snapshot (session : Session) (configs : List ClusterConfig) : Outcome := do
  let (router, faults) ← session.router.applySnapshot configs
  (session.withRouter router).done (.rejected faults)

def remove (session : Session) (id : String) : Outcome := do
  let (router, found) ← session.router.remove id
  (session.withRouter router).done (.removed (if found then some id else none))

def lookup (session : Session) (id : String) : LookupView where
  available :=
    (session.router.registered? id).map (fun entry =>
      (entry.2.candidates entry.2.available).map Candidate.id)
  probing := session.router.probing.contains id
  clusters := session.router.registered.keys

/-! Requests. -/

def pickOnce (ref : ClusterRef) (request : Http.Request) (router : Router) :
    Effect (Router × PickView) := do
  match router.cluster? ref with
  | none => pure (router, .refused .unavailable 503)
  | some cluster =>
      let (router, result) ← router.pick ref cluster.model cluster request
      match result with
      | .ok picked => pure (router, .picked picked.candidate.id picked.status)
      | .error fault => do
          let response ← fault.response
          pure (router, .refused fault response.status)

def pick (session : Session) (id : String) (request : Http.Request) (times : Nat) :
    Outcome :=
  session.onCluster id (fun ref _ => do
    let (router, picks) ← repeated (pickOnce ref request) times session.router
    (session.withRouter router).done (.picks picks))

def narrow (session : Session) (id : String) (request : Http.Request)
    (destinations : Option (List String)) : Outcome :=
  session.onCluster id (fun _ cluster => do
    let candidates? :=
      match destinations with
      | none => some (cluster.candidates cluster.available)
      | some ids => ids.mapM cluster.destination?
    match candidates? with
    | none => session.done (.mistake .destination)
    | some candidates => do
        let result ← cluster.narrow request candidates
        session.done (.narrowed (result.map (fun result =>
          (result.status, result.candidates.map Candidate.id)))))

/-- What the backend of a waiting request answers under a plan. -/
def answer (request : InFlight) (plan : Plan) : Except ForwardFault Http.Response := do
  let _ ← request.backend
  let planned ← plan
  .ok
    { status := planned.status
      headers := planned.headers
      body := planned.body.getD request.candidate.destination.config.address }

def conclude (router : Router) (started : Router.Started) (plan : Plan) :
    Effect (Router × Http.Response) :=
  match started with
  | .answered response => pure (router, response)
  | .waiting number =>
      match router.inFlight? number with
      | none => pure (router, {})
      | some request => do
          let (router, response) ← router.finish number (answer request plan)
          pure (router, response.getD {})

def notStarted : Router.Started := .answered {}

def dispatchOnce (ref : ClusterRef) (request : Http.Request) (plan : Plan)
    (router : Router) :
    Effect (Router × Http.Response) := do
  let (router, started) ← router.start ref request
  conclude router (started.getD notStarted) plan

def dispatch (session : Session) (id : String) (request : Http.Request) (plan : Plan)
    (times : Nat) : Outcome :=
  session.onCluster id (fun ref _ => do
    let (router, responses) ←
      repeated (dispatchOnce ref request plan) times session.router
    (session.withRouter router).done (.responses responses))

def serve (session : Session) (request : Http.Request) (plan : Plan) : Outcome := do
  let (router, started) ← session.router.serve request
  let (router, response) ← conclude router (started.getD notStarted) plan
  (session.withRouter router).done (.response response)

/-- A request that cannot be sent to its backend is answered at once. -/
def concludeUnsent (router : Router) (started : Router.Started) :
    Effect (Router × Router.Started) :=
  match started with
  | .answered _ => pure (router, started)
  | .waiting number =>
      match (router.inFlight? number).map InFlight.backend with
      | some (.error fault) => do
          let (router, response) ← router.finish number (.error fault)
          pure (router, .answered (response.getD {}))
      | _ => pure (router, started)

def breakOff (router : Router) : Option Router.Started → Effect Router
  | some (.waiting number) => Prod.fst <$> router.finish number (.error .canceled)
  | _ => pure router

/-- Starts a request under a name. An older request of that name has lost its
backend then. -/
def startOne (ref : ClusterRef) (request : Http.Request) (session : Session)
    (name : String) :
    Effect Session := do
  let (router, started) ← session.router.start ref request
  let (router, started) ← concludeUnsent router (started.getD notStarted)
  let router ← breakOff router (session.requests.get? name)
  pure { session.withRouter router with requests := session.requests.insert name started }

/-- The names of several requests that are started together are numbered. -/
def requestNames (name : String) (times : Nat) : List String :=
  if times = 1 then [name]
  else (List.range times).map (fun index => name ++ toString (index + 1))

def startRequests (session : Session) (id name : String) (request : Http.Request)
    (times : Nat) : Outcome :=
  session.onCluster id (fun ref _ => do
    let session ← Traced.fold (startOne ref request) session (requestNames name times)
    session.done .nothing)

def finish (session : Session) (name : String) (plan : Plan) : Outcome :=
  match session.requests.get? name with
  | none => session.done (.mistake .request)
  | some started => do
      let (router, response) ← conclude session.router started plan
      let session :=
        { session.withRouter router with requests := session.requests.erase name }
      session.done (.response response)

def abort (session : Session) (name : String) : Outcome :=
  match session.requests.get? name with
  | none => session.done (.mistake .request)
  | some started => do
      let session := { session with requests := session.requests.erase name }
      match started with
      | .answered _ => session.done (.canceled false)
      | .waiting number => do
          let router ← session.router.abandon number
          (session.withRouter router).done (.canceled true)

/-! Leases and counters. -/

def lease (session : Session) (id name destination : String) : Outcome :=
  session.onDestination id destination (fun ref candidate => do
    let (router, number) := session.router.acquire ref candidate.record
    let lease : Lease := { cluster := ref, record := candidate.record }
    let view := leaseView? router lease
    let router ←
      match session.leases.get? name with
      | none => pure router
      | some (former, _) => router.endLease former .canceled
    let session :=
      { session.withRouter router with
        leases := session.leases.insert name (number, lease) }
    match view with
    | none => session.done (.mistake .destination)
    | some view => session.done (.leased view))

def endLease (session : Session) (name : String) (outcome : Gateway.Outcome) : Outcome :=
  match session.leases.get? name with
  | none => session.done (.mistake .lease)
  | some (number, lease) => do
      let router ← session.router.endLease number outcome
      let session :=
        { session.withRouter router with leases := session.leases.erase name }
      match leaseView? router lease with
      | none => session.done (.mistake .lease)
      | some view => session.done (.leaseEnded view)

def iterate {α : Type} (change : α → α) (times : Nat) (start : α) : α :=
  (List.range times).foldl (fun value _ => change value) start

def count (session : Session) (id : String) (destination : Option String) (up : Bool)
    (times : Nat) : Outcome :=
  match destination with
  | none =>
      session.onCluster id (fun ref cluster =>
        let change := if up then Cluster.incrementRequests else Cluster.decrementRequests
        let cluster := iterate change times cluster
        (session.withRouter (session.router.setCluster ref cluster)).done
          (.count cluster.requests))
  | some destination =>
      session.onDestination id destination (fun ref candidate =>
        let change := if up then Destination.increment else Destination.decrement
        let changed := iterate change times candidate.destination
        let router := session.router.mapCluster ref (fun cluster =>
          cluster.modifyRecord candidate.record (fun _ => changed))
        (session.withRouter router).done (.count changed.requests))

def cursor (session : Session) (id : String) : Outcome :=
  session.onCluster id (fun ref cluster =>
    let moved := { cluster with cursor := cluster.cursor + 1 }
    (session.withRouter (session.router.setCluster ref moved)).done
      (.count cluster.cursor))

/-! Health. -/

def record (session : Session) (id destination : String) (outcome : Gateway.Outcome)
    (times : Nat) : Outcome :=
  session.onDestination id destination (fun ref candidate => do
    let router ←
      Traced.fold (fun router (_ : Nat) => router.observe ref candidate.record outcome)
        session.router (List.range times)
    let health :=
      ((current? router ref candidate.record).map (fun destination =>
        destination.health.passive)).getD .healthy
    (session.withRouter router).done (.passive health))

def publishNow (ref : ClusterRef) (router : Router) : Effect Router :=
  Prod.fst <$> router.withCluster ref () (fun cluster =>
    (fun cluster => (cluster, ())) <$> cluster.publish)

def setHealth (session : Session) (id destination : String) (active : Option ActiveHealth)
    (passive : Option PassiveHealth) (publish : Bool) : Outcome :=
  session.onDestination id destination (fun ref candidate => do
    let health := candidate.destination.health
    let changed :=
      { health with
        active := active.getD health.active
        passive := passive.getD health.passive }
    let router := session.router.mapCluster ref (fun cluster =>
      cluster.setHealth candidate.record changed)
    let router ← if publish then publishNow ref router else pure router
    (session.withRouter router).done
      (.previousHealth (active.map (fun _ => health.active))
        (passive.map (fun _ => health.passive))))

def publish (session : Session) (id : String) : Outcome :=
  session.onCluster id (fun ref _ => do
    let router ← publishNow ref session.router
    (session.withRouter router).done .nothing)

def checkOnce (session : Session) (id : String) : Outcome :=
  session.onCluster id (fun ref _ => do
    let scene ← session.scene.checkOnce ref
    { session with scene }.done .nothing)

def probingCompleted (session : Session) (id : String)
    (results : List (String × ProbeOutcome)) (times : Nat) : Outcome :=
  session.onCluster id (fun ref cluster => do
    let found := results.mapM (fun result => do
      some ((← cluster.destination? result.1).record, result.2))
    match found with
    | none => session.done (.mistake .destination)
    | some found => do
        let judge := fun cluster : Cluster =>
          cluster.judgeProbes ActivePolicy.consecutiveFailures found
        let (cluster, changes) ← repeated judge times cluster
        (session.withRouter (session.router.setCluster ref cluster)).done
          (.changed changes))

/-! Probe loops. -/

def spawn (session : Session) (id name : String) : Outcome :=
  session.onCluster id (fun ref _ => do
    let (router, loop) ← session.router.spawnProbing ref
    match loop with
    | none => (session.withRouter router).done (.spawned false)
    | some loop => do
        let router ←
          match session.tasks.get? name with
          | none => pure router
          | some (former, number) => router.cancelLoop former number
        let session :=
          { session.withRouter router with
            tasks := session.tasks.insert name (ref, loop) }
        session.done (.spawned true))

def isCancelled (router : Router) (ref : ClusterRef) (loop : Nat) : Bool :=
  ((router.cluster? ref).bind (fun cluster => cluster.loops[loop]?)).any
    ProbeLoop.cancelled

def task (session : Session) (name : String) (action : TaskAction) : Outcome :=
  match session.tasks.get? name with
  | none => session.done (.mistake .task)
  | some (ref, loop) =>
      match action with
      | .state => session.done (.taskState (some (isCancelled session.router ref loop)))
      | .cancel => do
          let router ← session.router.cancelLoop ref loop
          (session.withRouter router).done
            (.taskState (some (isCancelled router ref loop)))
      | .drop => do
          let router ← session.router.cancelLoop ref loop
          let session :=
            { session.withRouter router with tasks := session.tasks.erase name }
          session.done (.taskState none)
      | .stop => do
          let router ← session.router.cancelLoop ref loop
          let session :=
            { session.withRouter router with tasks := session.tasks.erase name }
          session.done .stopped

def sleep (session : Session) (milliseconds : Nat) : Outcome := do
  if session.router.background then
    let scene ← session.scene.advance (session.router.now + milliseconds)
    { session with scene }.done .nothing
  else session.done .nothing

def perform (session : Session) : Step → Outcome
  | .apply config => session.apply config
  | .snapshot configs => session.snapshot configs
  | .malformedSnapshot => session.done .malformed
  | .remove cluster => session.remove cluster
  | .lookup cluster => session.done (.lookedUp (session.lookup cluster))
  | .host request =>
      session.done (.host ((session.router.clusterOfRequest? request).map ClusterRef.id))
  | .pick cluster request times => session.pick cluster request times
  | .narrow cluster request destinations =>
      session.narrow cluster request destinations
  | .dispatch cluster request plan times =>
      session.dispatch cluster request plan times
  | .serve request plan => session.serve request plan
  | .start cluster name request times =>
      session.startRequests cluster name request times
  | .finish name plan => session.finish name plan
  | .abort name => session.abort name
  | .lease cluster name destination => session.lease cluster name destination
  | .endLease name outcome => session.endLease name outcome
  | .count cluster destination up times => session.count cluster destination up times
  | .record cluster destination outcome times =>
      session.record cluster destination outcome times
  | .setHealth cluster destination active passive publish =>
      session.setHealth cluster destination active passive publish
  | .publish cluster => session.publish cluster
  | .cursor cluster => session.cursor cluster
  | .prober destination answers =>
      let scene := session.scene
      { session with
        scene := { scene with script := scene.script.insert destination answers } }.done
        .nothing
  | .checkOnce cluster => session.checkOnce cluster
  | .probingCompleted cluster results times =>
      session.probingCompleted cluster results times
  | .spawn cluster name => session.spawn cluster name
  | .task name action => session.task name action
  | .sleep milliseconds => session.sleep milliseconds

def issuedKeys (events : List Event) : List String :=
  events.filterMap (fun event =>
    match event with
    | .issue key => some key
    | _ => none)

def remember (session : Session) (keys : List String) : Session :=
  if session.masking then { session with keys := session.keys ++ keys } else session

def run (session : Session) (step : Step) : Outcome :=
  let outcome : Outcome := do
    let (session, result) ← session.perform step
    let scene ← session.scene.catchUp
    pure ({ session with scene }, result)
  { outcome with
    value := (outcome.value.1.remember (issuedKeys outcome.events), outcome.value.2) }

end Session

end Gateway.Rehearsal
