import Gateway.Http.Message
import Gateway.Outcome
import Gateway.Text.Blank

namespace Gateway.Http.Backend

/-! What is sent to a backend: the client's request under the destination's
address. -/

def withoutTrailingSlashes (address : String) : List Char :=
  Text.trimRight (fun character => character == '/') address.toList

def uri (address : String) (client : Uri) : Except ForwardFault Uri :=
  let text := String.ofList (withoutTrailingSlashes address) ++ client.target?.getD "/"
  match Uri.parse text with
  | .ok uri => .ok uri
  | .error fault =>
      .error (.failed ("invalid destination uri " ++ text ++ ": " ++ fault.message))

/-- The host header is left to the connection; the client's address is added to
the list of forwarders. -/
def request (address : String) (client : Request) : Except ForwardFault Request := do
  let uri ← uri address client.uri
  let headers := client.headers.remove "host"
  let headers :=
    match client.client with
    | none => headers
    | some source => headers.append "x-forwarded-for" (Text.bytes source.ip.text)
  .ok { client with uri, headers }

end Gateway.Http.Backend
