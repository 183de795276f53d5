import Gateway.Rehearsal.Policies
import Gateway.Router.Hosts
import Gateway.Router.Timeline

namespace Gateway.Rehearsal

/-! The steps of a rehearsal, and what each of them comes to. Clusters,
destinations and handles are named by text; a name that stands for nothing is a
mistake of the script. -/

/-- What a backend will answer. A body that is left out is the address of the
destination. -/
structure PlannedResponse where
  status : Nat := 200
  headers : Http.Headers := {}
  body : Option String := none

abbrev Plan := Except ForwardFault PlannedResponse

inductive TaskAction where
  | state
  | cancel
  | drop
  | stop
  deriving Repr, DecidableEq

inductive Step where
  | apply (config : ClusterConfig)
  | snapshot (configs : List ClusterConfig)
  | malformedSnapshot
  | remove (cluster : String)
  | lookup (cluster : String)
  | host (request : Http.Request)
  | pick (cluster : String) (request : Http.Request) (times : Nat)
  | narrow (cluster : String) (request : Http.Request)
      (destinations : Option (List String))
  | dispatch (cluster : String) (request : Http.Request) (plan : Plan) (times : Nat)
  | serve (request : Http.Request) (plan : Plan)
  | start (cluster name : String) (request : Http.Request) (times : Nat)
  | finish (name : String) (plan : Plan)
  | abort (name : String)
  | lease (cluster name destination : String)
  | endLease (name : String) (outcome : Outcome)
  | count (cluster : String) (destination : Option String) (up : Bool) (times : Nat)
  | record (cluster destination : String) (outcome : Outcome) (times : Nat)
  | setHealth (cluster destination : String) (active : Option ActiveHealth)
      (passive : Option PassiveHealth) (publish : Bool)
  | publish (cluster : String)
  | cursor (cluster : String)
  | prober (destination : String) (answers : List ProbeAnswer)
  | checkOnce (cluster : String)
  | probingCompleted (cluster : String) (results : List (String × ProbeOutcome))
      (times : Nat)
  | spawn (cluster name : String)
  | task (name : String) (action : TaskAction)
  | sleep (milliseconds : Nat)

inductive Mistake where
  | cluster
  | destination
  | lease
  | request
  | task
  deriving Repr, DecidableEq

def Mistake.message : Mistake → String
  | .cluster => "no such cluster"
  | .destination => "no such destination"
  | .lease => "no such lease"
  | .request => "no such request"
  | .task => "no such task"

/-- A pick as it is shown: where it went, or its fault with the status of the
response that the fault leads to. -/
inductive PickView where
  | picked (destination : String) (status : Option AffinityStatus)
  | refused (fault : DispatchFault) (status : Nat)

structure LeaseView where
  destination : String
  requests : UInt64
  passive : PassiveHealth

structure LookupView where
  available : Option (List String)
  probing : Bool
  clusters : List String

inductive StepResult where
  | nothing
  | mistake (mistake : Mistake)
  | applied (result : Except ConfigurationFault ClusterModel)
  | rejected (faults : List ConfigurationFault)
  | malformed
  | removed (cluster : Option String)
  | lookedUp (lookup : LookupView)
  | host (cluster : Option String)
  | picks (picks : List PickView)
  | narrowed (result : Except UsageFault (AffinityStatus × List String))
  | responses (responses : List Http.Response)
  | response (response : Http.Response)
  | canceled (before : Bool)
  | leased (lease : LeaseView)
  | leaseEnded (lease : LeaseView)
  | count (count : UInt64)
  | passive (health : PassiveHealth)
  | previousHealth (active : Option ActiveHealth) (passive : Option PassiveHealth)
  | changed (changes : List Bool)
  | spawned (started : Bool)
  | taskState (cancelled : Option Bool)
  | stopped

end Gateway.Rehearsal
