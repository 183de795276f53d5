import Gateway.Fault.Routing

namespace Gateway

/-! How the search for the destination of a session ended. -/

inductive AffinityStatus where
  | found
  | keyNotSet
  | destinationNotFound
  | keyExtractionFailed
  deriving Repr, DecidableEq

namespace AffinityStatus

def name : AffinityStatus → String
  | .found => "Ok"
  | .keyNotSet => "AffinityKeyNotSet"
  | .destinationNotFound => "DestinationNotFound"
  | .keyExtractionFailed => "AffinityKeyExtractionFailed"

def isFailure : AffinityStatus → Bool
  | .destinationNotFound | .keyExtractionFailed => true
  | .found | .keyNotSet => false

def routingFault? : AffinityStatus → Option RoutingFault
  | .destinationNotFound => some .affinityDestinationNotFound
  | .keyExtractionFailed => some .affinityKeyExtractionFailed
  | .found | .keyNotSet => none

theorem isSome_routingFault? (status : AffinityStatus) :
    status.routingFault?.isSome = status.isFailure := by
  cases status <;> rfl

end AffinityStatus

end Gateway
