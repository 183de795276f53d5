import Gateway.Configuration.Cluster
import Gateway.Health.Axis
import Gateway.Health.FailureWindow

namespace Gateway

/-! The live record of a destination. It outlives changes of its settings, and
even its removal from the configuration while requests to it are under way. -/

structure DestinationHealth where
  active : ActiveHealth := .unknown
  passive : PassiveHealth := .healthy
  /-- The number of exclusions so far, as a word; a timer of an earlier one is out of
  date. -/
  exclusions : UInt64 := 0
  /-- Failed probes in a row. -/
  probeFailures : UInt32 := 0
  window : FailureWindow := {}
  deriving DecidableEq

structure Destination where
  id : String
  config : DestinationConfig
  requests : UInt64 := 0
  health : DestinationHealth := {}
  deriving DecidableEq

/-! Request counters are words: counting up wraps and counting down stops at
zero. -/

def decrementCount (count : UInt64) : UInt64 :=
  if count = 0 then 0 else count - 1

namespace Destination

def increment (destination : Destination) : Destination :=
  { destination with requests := destination.requests + 1 }

def decrement (destination : Destination) : Destination :=
  { destination with requests := decrementCount destination.requests }

def withHealth (destination : Destination) (health : DestinationHealth) : Destination :=
  { destination with health }

end Destination

/-- A destination as a candidate for a request: its record and the number that
the cluster knows the record by. -/
structure Candidate where
  record : Nat
  destination : Destination
  deriving DecidableEq

namespace Candidate

def id (candidate : Candidate) : String := candidate.destination.id

def requests (candidate : Candidate) : UInt64 := candidate.destination.requests

end Candidate

end Gateway
