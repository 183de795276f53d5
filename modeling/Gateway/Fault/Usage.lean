import Gateway.Affinity.Status

namespace Gateway

/-! Wrong use of a policy by the code that calls it. -/

inductive UsageFault where
  | affinityDisabled (cluster : String)
  | notAnAffinityFailure (status : AffinityStatus)
  deriving Repr, DecidableEq

def UsageFault.message : UsageFault → String
  | .affinityDisabled cluster =>
      "session affinity is not enabled on cluster '" ++ cluster ++ "'"
  | .notAnAffinityFailure status =>
      "affinity failure policy invoked with non-failure status " ++ status.name

end Gateway
