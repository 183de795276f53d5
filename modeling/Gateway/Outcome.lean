import Gateway.Text.Quoted

namespace Gateway

/-! How forwarded requests and probes end. -/

inductive ForwardFault where
  | failed (reason : String)
  | timeout
  | canceled
  deriving Repr, DecidableEq

def ForwardFault.message : ForwardFault → String
  | .failed reason => "upstream request failed: " ++ reason
  | .timeout => "upstream request timed out"
  | .canceled => "request was canceled"

inductive Outcome where
  | success
  | backendError
  | timeout
  | canceled
  deriving Repr, DecidableEq

def Outcome.name : Outcome → String
  | .success => "Success"
  | .backendError => "UpstreamError"
  | .timeout => "Timeout"
  | .canceled => "Canceled"

def Outcome.ofResult {α : Type u} : Except ForwardFault α → Outcome
  | .ok _ => .success
  | .error (.failed _) => .backendError
  | .error .timeout => .timeout
  | .error .canceled => .canceled

inductive ProbeFault where
  | invalidUri (reason : String)
  | request (reason : String)
  | timeout
  deriving Repr, DecidableEq

def ProbeFault.message : ProbeFault → String
  | .invalidUri reason => "invalid probe uri " ++ reason
  | .request reason => "probe request failed: " ++ reason
  | .timeout => "probe timed out"

inductive ProbeOutcome where
  | answered (status : Nat)
  | failed (fault : ProbeFault)
  deriving Repr, DecidableEq

namespace ProbeOutcome

/-- A probe succeeds if it was answered with a status of the success class. -/
def isSuccess : ProbeOutcome → Bool
  | .answered status => 200 ≤ status && status < 300
  | .failed _ => false

def shown : ProbeOutcome → String
  | .answered status => s!"Ok({status})"
  | .failed (.invalidUri reason) => "Err(InvalidUri(" ++ Text.quoted reason ++ "))"
  | .failed (.request reason) => "Err(Request(" ++ Text.quoted reason ++ "))"
  | .failed .timeout => "Err(Timeout)"

end ProbeOutcome

end Gateway
