import Gateway.Keyed
import Gateway.Net.Address

namespace Gateway

/-! The settings of a gateway. Periods and timeouts are in milliseconds; names
of policies are optional, and an absent one stands for the default policy. -/

structure DestinationConfig where
  address : String
  health : Option String := none
  metadata : Keyed String := {}
  deriving DecidableEq

structure ActiveCheckConfig where
  enabled : Bool := false
  interval : Nat := 15000
  timeout : Nat := 10000
  policy : Option String := none
  path : Option String := none
  deriving DecidableEq

structure PassiveCheckConfig where
  enabled : Bool := false
  policy : Option String := none
  reactivationPeriod : Nat := 60000
  deriving DecidableEq

structure HealthCheckConfig where
  active : ActiveCheckConfig := {}
  passive : PassiveCheckConfig := {}
  availability : Option String := none
  deriving DecidableEq

structure ForwardingConfig where
  activityTimeout : Nat := 100000
  deriving DecidableEq

inductive SameSite where
  | strict
  | lax
  | none
  deriving Repr, DecidableEq

def SameSite.name : SameSite → String
  | .strict => "Strict"
  | .lax => "Lax"
  | .none => "None"

structure CookieConfig where
  path : Option String := some "/"
  domain : Option String := none
  httpOnly : Bool := true
  secure : Bool := false
  sameSite : Option SameSite := none
  maxAge : Option Nat := none
  deriving DecidableEq

structure AffinityConfig where
  enabled : Bool := false
  policy : Option String := none
  failurePolicy : Option String := none
  keyName : String
  cookie : CookieConfig := {}
  deriving DecidableEq

structure ClusterConfig where
  id : String
  hosts : List String := []
  loadBalancing : Option String := none
  affinity : Option AffinityConfig := none
  healthCheck : HealthCheckConfig := {}
  forwarding : ForwardingConfig := {}
  destinations : Keyed DestinationConfig := {}
  metadata : Keyed String := {}
  deriving DecidableEq

structure GatewayConfig where
  listenAddress : Net.SocketAddress := { ip := .v4 #v[0, 0, 0, 0], port := 80 }
  protectionKey : Option String := none
  clusters : List ClusterConfig := []
  deriving DecidableEq

end Gateway
