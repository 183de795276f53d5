namespace Gateway

/-! Why no destination could be chosen for a request. -/

inductive RoutingFault where
  | noAvailableDestinations
  | affinityKeyExtractionFailed
  | affinityDestinationNotFound
  deriving Repr, DecidableEq

def RoutingFault.message : RoutingFault → String
  | .noAvailableDestinations => "no available destinations"
  | .affinityKeyExtractionFailed => "affinity key extraction failed"
  | .affinityDestinationNotFound => "destination matching the affinity key was not found"

/-- Every routing fault is answered with "service unavailable". -/
def RoutingFault.status (_ : RoutingFault) : Nat := 503

end Gateway
