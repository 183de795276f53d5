import Gateway.Http.Header
import Gateway.Http.Uri
import Gateway.Net.Address

namespace Gateway.Http

/-! Requests and responses. A request that came in over a connection knows the
address of its client. Request bodies are passed through and do not take part in
any decision. -/

structure Request where
  method : String := "GET"
  uri : Uri := { path := "/" }
  headers : Headers := {}
  client : Option Net.SocketAddress := none
  deriving Repr, DecidableEq

structure Response where
  status : Nat := 200
  headers : Headers := {}
  body : String := ""
  deriving Repr, DecidableEq

end Gateway.Http
