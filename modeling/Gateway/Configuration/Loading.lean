import Gateway.Affinity.Protector
import Gateway.Configuration.Reading
import Gateway.Event
import Gateway.Toml.Assembly

namespace Gateway

/-! From the content of a settings file to settings. -/

namespace GatewayConfig

def parse (file text : String) : Except ConfigurationFault GatewayConfig :=
  match (Toml.parse? text).bind ofDocument? with
  | some config => .ok config
  | none => .error (.malformed file "not a valid configuration")

def warnings (config : GatewayConfig) : List Notice :=
  config.clusters.flatMap (fun cluster =>
    (if cluster.hosts.isEmpty then [.clusterUnreachable cluster.id] else []) ++
      (if cluster.destinations.isEmpty then [.clusterWithoutDestinations cluster.id]
        else []))

def load (file : String) (content : Option Bytes) :
    Effect (Except ConfigurationFault GatewayConfig) :=
  match content.map Text.ofBytes? with
  | none => pure (.error (.unreadable file "no such file"))
  | some none => pure (.error (.unreadable file "not valid UTF-8"))
  | some (some text) =>
      match parse file text with
      | .error fault => pure (.error fault)
      | .ok config =>
          { value := .ok config
            events := (.configurationParsed :: config.warnings).map .notice }

end GatewayConfig

/-- The protector that a gateway is configured with. Without a configured key a
fresh one is used. -/
def configuredProtector (fresh : Bytes) (key : Option String) :
    Effect (Except ConfigurationFault Protector) :=
  match key with
  | some text => pure (Protector.ofKeyText text)
  | none => do
      Effect.tell .protectionKeyGenerated
      pure (.ok (.encrypting fresh))

end Gateway
