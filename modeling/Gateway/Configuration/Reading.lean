import Gateway.Configuration.Cluster
import Gateway.Document

namespace Gateway

/-! The meaning of a settings document. Reading either understands the whole
document or gives nothing. -/

open Document

def readTexts? (document : Document) : Option (Keyed String) :=
  (entries? text? document).map Keyed.ofList

namespace DestinationConfig

def ofDocument? (document : Document) : Option DestinationConfig := do
  let fields ← fields? ["address", "health", "metadata"] document
  some
    { address := ← fields.required "address" text?
      health := ← fields.optional "health" none text?
      metadata := ← fields.withDefault "metadata" {} readTexts? }

end DestinationConfig

namespace ActiveCheckConfig

def ofDocument? (document : Document) : Option ActiveCheckConfig := do
  let fields ← fields? ["enabled", "interval_ms", "timeout_ms", "policy", "path"] document
  some
    { enabled := ← fields.withDefault "enabled" false boolean?
      interval := ← fields.withDefault "interval_ms" 15000 natural?
      timeout := ← fields.withDefault "timeout_ms" 10000 natural?
      policy := ← fields.optional "policy" none text?
      path := ← fields.optional "path" none text? }

end ActiveCheckConfig

namespace PassiveCheckConfig

def ofDocument? (document : Document) : Option PassiveCheckConfig := do
  let fields ← fields? ["enabled", "policy", "reactivation_period_ms"] document
  some
    { enabled := ← fields.withDefault "enabled" false boolean?
      policy := ← fields.optional "policy" none text?
      reactivationPeriod := ← fields.withDefault "reactivation_period_ms" 60000 natural? }

end PassiveCheckConfig

namespace HealthCheckConfig

def ofDocument? (document : Document) : Option HealthCheckConfig := do
  let fields ← fields? ["active", "passive", "available_destinations_policy"] document
  some
    { active := ← fields.withDefault "active" {} ActiveCheckConfig.ofDocument?
      passive := ← fields.withDefault "passive" {} PassiveCheckConfig.ofDocument?
      availability := ← fields.optional "available_destinations_policy" none text? }

end HealthCheckConfig

namespace ForwardingConfig

def ofDocument? (document : Document) : Option ForwardingConfig := do
  let fields ← fields? ["activity_timeout_ms"] document
  some { activityTimeout := ← fields.withDefault "activity_timeout_ms" 100000 natural? }

end ForwardingConfig

namespace SameSite

def parse? (name : String) : Option SameSite :=
  [SameSite.strict, .lax, .none].find? (fun candidate => candidate.name == name)

/-- The name of a choice, as text or as the single entry of an inline table
whose value is an empty table. -/
def ofDocument? : Document → Option SameSite
  | .text name => parse? name
  | .table true [(name, .table _ [])] => parse? name
  | _ => Option.none

end SameSite

namespace CookieConfig

def ofDocument? (document : Document) : Option CookieConfig := do
  let fields ←
    fields? ["path", "domain", "http_only", "secure", "same_site", "max_age_ms"] document
  some
    { path := ← fields.optional "path" (some "/") text?
      domain := ← fields.optional "domain" none text?
      httpOnly := ← fields.withDefault "http_only" true boolean?
      secure := ← fields.withDefault "secure" false boolean?
      sameSite := ← fields.optional "same_site" none SameSite.ofDocument?
      maxAge := ← fields.optional "max_age_ms" none natural? }

end CookieConfig

namespace AffinityConfig

def ofDocument? (document : Document) : Option AffinityConfig := do
  let fields ←
    fields? ["enabled", "policy", "failure_policy", "affinity_key_name", "cookie"]
      document
  some
    { enabled := ← fields.withDefault "enabled" false boolean?
      policy := ← fields.optional "policy" none text?
      failurePolicy := ← fields.optional "failure_policy" none text?
      keyName := ← fields.required "affinity_key_name" text?
      cookie := ← fields.withDefault "cookie" {} CookieConfig.ofDocument? }

end AffinityConfig

namespace ClusterConfig

def readDestinations? (document : Document) : Option (Keyed DestinationConfig) :=
  (entries? DestinationConfig.ofDocument? document).map Keyed.ofList

def ofDocument? (document : Document) : Option ClusterConfig := do
  let fields ←
    fields?
      ["id", "hosts", "load_balancing_policy", "session_affinity", "health_check",
        "http_request", "destinations", "metadata"] document
  some
    { id := ← fields.required "id" text?
      hosts := ← fields.withDefault "hosts" [] (list? text?)
      loadBalancing := ← fields.optional "load_balancing_policy" none text?
      affinity := ← fields.optional "session_affinity" none AffinityConfig.ofDocument?
      healthCheck := ← fields.withDefault "health_check" {} HealthCheckConfig.ofDocument?
      forwarding := ← fields.withDefault "http_request" {} ForwardingConfig.ofDocument?
      destinations := ← fields.withDefault "destinations" {} readDestinations?
      metadata := ← fields.withDefault "metadata" {} readTexts? }

end ClusterConfig

namespace GatewayConfig

def readAddress? (document : Document) : Option Net.SocketAddress :=
  document.text?.bind Net.SocketAddress.parse?

/-- The key may be left out of a table, but not of a list. -/
def readProtectionKey? (document : Document) : Option (Option String) := do
  let fields ← fields? ["key"] document
  match document with
  | .list [] => none
  | _ => fields.optional "key" none text?

def ofDocument? (document : Document) : Option GatewayConfig := do
  let fields ← fields? ["listen_address", "data_protection", "clusters"] document
  let default : GatewayConfig := {}
  some
    { listenAddress :=
        ← fields.withDefault "listen_address" default.listenAddress readAddress?
      protectionKey := ← fields.withDefault "data_protection" none readProtectionKey?
      clusters := ← fields.withDefault "clusters" [] (list? ClusterConfig.ofDocument?) }

end GatewayConfig

end Gateway
