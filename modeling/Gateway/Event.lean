import Gateway.Net.Address
import Gateway.Notice
import Gateway.Traced

namespace Gateway

/-! What a step of the gateway does to the world around it: it tells its
operator something, it hands a request to a backend, it asks a destination for
its health, it reports an outcome to an observer outside, or it issues an
affinity key to a client. -/

inductive Event where
  | notice (notice : Notice)
  | forward (address : String) (uri : Option String) (timeout : Nat)
      (client : Option Net.SocketAddress)
  | probe (destination : String) (uri : Option String) (timeout : Nat)
  | report (cluster destination : String) (outcome : Outcome)
  | issue (key : String)
  deriving Repr, DecidableEq

abbrev Effect := Traced Event

namespace Effect

def tell (notice : Notice) : Effect PUnit :=
  Traced.emit (.notice notice)

def tellOf (cluster : String) (matter : ClusterNotice) : Effect PUnit :=
  tell (.concerning cluster matter)

end Effect

end Gateway
