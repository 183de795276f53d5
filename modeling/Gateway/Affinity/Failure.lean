import Gateway.Event
import Gateway.Http.Reply

namespace Gateway

/-! What happens to a request whose session leads nowhere. -/

inductive FailureAction where
  | continueRouting
  | respond (response : Http.Response)
  deriving Repr, DecidableEq

structure FailurePolicy where
  name : String
  handle : (cluster : String) → AffinityStatus → Effect (Except UsageFault FailureAction)

namespace FailurePolicy

def redistribute : FailurePolicy where
  name := "Redistribute"
  handle cluster status :=
    if status.isFailure then do
      Effect.tellOf cluster (.redistributing status)
      pure (.ok .continueRouting)
    else pure (.error (.notAnAffinityFailure status))

def refuse : FailurePolicy where
  name := "Return503Error"
  handle _ status :=
    if status.isFailure then pure (.ok (.respond Http.Reply.serviceUnavailable))
    else pure (.error (.notAnAffinityFailure status))

def builtin : List FailurePolicy :=
  [redistribute, refuse]

end FailurePolicy

end Gateway
