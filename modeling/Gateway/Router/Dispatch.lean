import Gateway.Http.Backend
import Gateway.Router.Leases

namespace Gateway.Router

/-! The way of a request: pick a destination, take a lease, hand the request to
the backend, and turn the backend's result into the response. -/

def pick (router : Router) (ref : ClusterRef) (model : ClusterModel) (cluster : Cluster)
    (request : Http.Request) : Effect (Router × Except DispatchFault Picked) := do
  let turn := { cursor := cluster.cursor, draws := router.draws }
  let (result, turn) ← cluster.pick model request turn
  let router := router.setCluster ref { cluster with cursor := turn.cursor }
  pure ({ router with draws := turn.draws }, result)

/-- What becomes of a request at first: it is answered, or it waits for its
backend under a number. -/
inductive Started where
  | answered (response : Http.Response)
  | waiting (number : Nat)
  deriving Repr, DecidableEq

def forward (router : Router) (ref : ClusterRef) (model : ClusterModel) (picked : Picked)
    (request : Http.Request) : Effect (Router × Nat) := do
  let address := picked.candidate.destination.config.address
  let (router, lease) := router.acquire ref picked.candidate.record
  let backend := Http.Backend.request address request
  let uri :=
    match backend with
    | .ok request => some request.uri.render
    | .error _ => none
  Traced.emit
    (.forward address uri model.config.forwarding.activityTimeout request.client)
  let inFlight : InFlight :=
    { cluster := ref, model, candidate := picked.candidate, status := picked.status,
      lease, backend }
  pure ({ router with inFlight := router.inFlight ++ [some inFlight] },
    router.inFlight.length)

def start (router : Router) (ref : ClusterRef) (request : Http.Request) :
    Effect (Router × Option Started) :=
  match router.cluster? ref with
  | none => pure (router, none)
  | some cluster => do
      let model := cluster.model
      let (router, result) ← router.pick ref model cluster request
      match result with
      | .error fault => do
          let response ← fault.response
          pure (router, some (.answered response))
      | .ok picked => do
          let (router, number) ← router.forward ref model picked request
          pure (router, some (.waiting number))

def inFlight? (router : Router) (number : Nat) : Option InFlight :=
  router.inFlight[number]?.join

/-- Gives a response its affinity key, if the session needs one. -/
def affinitize (router : Router) (request : InFlight) (response : Http.Response) :
    Effect (Router × Http.Response) :=
  match request.model.affinity, request.status with
  | some affinity, some status => do
      match ← affinity.policy.affinitize request.cluster.id affinity.config
          request.candidate.destination status { response, serial := router.serial } with
      | .ok answer => pure ({ router with serial := answer.serial }, answer.response)
      | .error fault => do
          Effect.tell (.policyMisused fault)
          pure (router, Http.Reply.internalServerError)
  | _, _ => pure (router, response)

def respond (router : Router) (request : InFlight)
    (result : Except ForwardFault Http.Response) : Effect (Router × Http.Response) :=
  match result with
  | .ok response => router.affinitize request response
  | .error .timeout => do
      Effect.tellOf request.cluster.id (.timedOut request.candidate.id)
      pure (router, Http.Reply.gatewayTimeout)
  | .error fault => do
      Effect.tell (.forwardingFailed fault)
      pure (router, Http.Reply.badGateway)

def finish (router : Router) (number : Nat) (result : Except ForwardFault Http.Response) :
    Effect (Router × Option Http.Response) :=
  match router.inFlight? number with
  | none => pure (router, none)
  | some request => do
      let router ← router.endLease request.lease (.ofResult result)
      let router := { router with inFlight := router.inFlight.set number none }
      let (router, response) ← router.respond request result
      pure (router, some response)

/-- Gives a waiting request up, as when its client goes away. -/
def abandon (router : Router) (number : Nat) : Effect Router :=
  match router.inFlight? number with
  | none => pure router
  | some request => do
      let router ← router.endLease request.lease .canceled
      pure { router with inFlight := router.inFlight.set number none }

end Gateway.Router
