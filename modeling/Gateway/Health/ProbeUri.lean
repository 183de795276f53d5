import Gateway.Configuration.Cluster
import Gateway.Http.Backend

namespace Gateway

/-! The address of a probe: the destination's health address, or else its
regular one, then one slash and the configured path. -/

def withoutLeadingSlashes (path : String) : List Char :=
  path.toList.dropWhile (fun character => character == '/')

def probeUri (destination : DestinationConfig) (path : Option String) :
    Except ProbeFault Http.Uri :=
  let base :=
    Http.Backend.withoutTrailingSlashes (destination.health.getD destination.address)
  let text := String.ofList (base ++ '/' :: withoutLeadingSlashes (path.getD ""))
  match Http.Uri.parse text with
  | .ok uri => .ok uri
  | .error fault => .error (.invalidUri (text ++ ": " ++ fault.message))

end Gateway
