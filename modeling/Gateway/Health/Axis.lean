namespace Gateway

/-! The two independent views on the health of a destination. The active axis
follows probes and starts out unknown; the passive axis follows the outcomes of
forwarded requests. -/

inductive ActiveHealth where
  | unknown
  | healthy
  | unhealthy
  deriving Repr, DecidableEq

inductive PassiveHealth where
  | healthy
  | unhealthy
  deriving Repr, DecidableEq

def ActiveHealth.name : ActiveHealth → String
  | .unknown => "Unknown"
  | .healthy => "Healthy"
  | .unhealthy => "Unhealthy"

def PassiveHealth.name : PassiveHealth → String
  | .healthy => "Healthy"
  | .unhealthy => "Unhealthy"

end Gateway
