import Gateway.Router.Dispatch
import Gateway.Text.Folding

namespace Gateway

/-! Finding the cluster that a request is for, by the host it names. -/

namespace Http

/-- The host of a request. A host header decides alone, even if it is malformed. -/
def Request.host? (request : Request) : Option String :=
  match request.headers.first? "host" with
  | none => request.uri.host?
  | some content => do
      let text ← Header.plainText? content
      match Uri.parseAuthority text with
      | .ok authority => some (String.ofList (Uri.hostOf authority))
      | .error _ => none

end Http

namespace Router

def listsHost (config : ClusterConfig) (host : String) : Bool :=
  config.hosts.any (fun candidate => Text.equalIgnoringAsciiCase candidate host)

/-- Of the configured clusters that list a host, the one with the least id. -/
def clusterOfHost? (router : Router) (host : String) : Option ClusterRef :=
  (router.registered.keys.filterMap router.registered?).findSome? (fun entry =>
    if listsHost entry.2.model.config host then some entry.1 else none)

def clusterOfRequest? (router : Router) (request : Http.Request) : Option ClusterRef :=
  request.host?.bind router.clusterOfHost?

def serve (router : Router) (request : Http.Request) :
    Effect (Router × Option Started) := do
  Effect.tell (.requestReceived request.method request.uri.render)
  match router.clusterOfRequest? request with
  | none => pure (router, some (.answered Http.Reply.notFound))
  | some ref => router.start ref request

end Router

end Gateway
