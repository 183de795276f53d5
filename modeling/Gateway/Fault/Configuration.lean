namespace Gateway

/-! Why a configuration is refused. -/

inductive PolicyKind where
  | loadBalancing
  | sessionAffinity
  | affinityFailure
  | availableDestinations
  | activeHealthCheck
  | passiveHealthCheck
  deriving Repr, DecidableEq

def PolicyKind.name : PolicyKind → String
  | .loadBalancing => "load balancing"
  | .sessionAffinity => "session affinity"
  | .affinityFailure => "affinity failure"
  | .availableDestinations => "available destinations"
  | .activeHealthCheck => "active health check"
  | .passiveHealthCheck => "passive health check"

inductive ConfigurationFault where
  | emptyClusterId
  | unknownPolicy (cluster : String) (kind : PolicyKind) (name : String)
  | missingDestinationAddress (cluster destination : String)
  | invalidAffinityKeyName (cluster name : String)
  | zeroProbeInterval (cluster : String)
  | zeroProbeTimeout (cluster : String)
  | zeroActivityTimeout (cluster : String)
  | invalidProtectionKey (reason : String)
  | unreadable (path reason : String)
  | malformed (path reason : String)
  deriving Repr, DecidableEq

namespace ConfigurationFault

def message : ConfigurationFault → String
  | .emptyClusterId => "cluster id must not be empty"
  | .unknownPolicy cluster kind name =>
      "cluster '" ++ cluster ++ "': unknown " ++ kind.name ++ " policy '" ++ name ++ "'"
  | .missingDestinationAddress cluster destination =>
      "cluster '" ++ cluster ++ "': destination '" ++ destination ++ "' has no address"
  | .invalidAffinityKeyName cluster name =>
      "cluster '" ++ cluster ++ "': '" ++ name ++ "' is not a valid affinity key name"
  | .zeroProbeInterval cluster =>
      "cluster '" ++ cluster ++
        "': active health check interval must be greater than zero"
  | .zeroProbeTimeout cluster =>
      "cluster '" ++ cluster ++ "': active health check timeout must be greater than zero"
  | .zeroActivityTimeout cluster =>
      "cluster '" ++ cluster ++ "': request activity timeout must be greater than zero"
  | .invalidProtectionKey reason => "invalid data protection key: " ++ reason
  | .unreadable path reason =>
      "failed to read configuration file " ++ path ++ ": " ++ reason
  | .malformed path reason =>
      "failed to parse configuration file " ++ path ++ ": " ++ reason

end ConfigurationFault

end Gateway
