import Gateway.Base64

namespace Gateway

/-! Why an affinity key could not be protected or recovered. -/

inductive ProtectionFault where
  | encoding (fault : Base64.Fault)
  | truncated
  | authentication
  | encryption
  | invalidKey
  deriving Repr, DecidableEq

def ProtectionFault.message : ProtectionFault → String
  | .encoding fault => fault.message
  | .truncated => "protected payload is truncated"
  | .authentication => "protected payload failed authentication"
  | .encryption => "encryption failed"
  | .invalidKey => "unprotected key is not valid UTF-8"

end Gateway
