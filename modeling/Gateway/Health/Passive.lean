import Gateway.Configuration.Metadata
import Gateway.Health.Destination
import Gateway.Outcome

namespace Gateway

/-! Passive health checks judge a destination by the outcomes of the requests
that were forwarded to it. -/

structure PassivePolicy where
  name : String
  observe : ClusterConfig → (now : Nat) → Destination → Outcome → Effect DestinationHealth

namespace PassivePolicy

def windowKey : String := "TransportFailureRateHealthPolicy.DetectionWindowSize"

def minimalTotalKey : String :=
  "TransportFailureRateHealthPolicy.MinimalTotalCountThreshold"

def rateLimitKey : String := "TransportFailureRateHealthPolicy.RateLimit"

def defaultWindow : Nat := 60000

def defaultMinimalTotal : Nat := 10

/-- The bits of 0.3. -/
def defaultRateLimit : UInt64 := 0x3fd3333333333333

structure RateSettings where
  window : Nat
  minimalTotal : Nat
  rateLimit : Float

def readSettings (config : ClusterConfig) : Effect RateSettings := do
  let window ← config.metadataValue windowKey Metadata.read64? defaultWindow
  let minimalTotal ←
    config.metadataValue minimalTotalKey Metadata.read64? defaultMinimalTotal
  let rateLimit ← config.metadataValue rateLimitKey Metadata.readBits? defaultRateLimit
  pure { window, minimalTotal, rateLimit := Float.ofBits rateLimit }

/-- Enough samples, and too large a share of failures among them. -/
def RateSettings.verdict (settings : RateSettings) (samples : FailureWindow) :
    PassiveHealth :=
  if decide (settings.minimalTotal ≤ samples.total) &&
    settings.rateLimit < samples.failureRate then
    .unhealthy
  else .healthy

def sample (config : ClusterConfig) (now : Nat) (health : DestinationHealth)
    (failed : Bool) :
    Effect DestinationHealth := do
  let settings ← readSettings config
  let window := health.window.add now failed settings.window
  pure { health with window, passive := settings.verdict window }

/-- Canceled requests say nothing about the destination. -/
def transportFailureRate : PassivePolicy where
  name := "TransportFailureRate"
  observe config now destination outcome :=
    match outcome with
    | .canceled => pure destination.health
    | .success => sample config now destination.health false
    | .backendError | .timeout => sample config now destination.health true

def builtin : List PassivePolicy :=
  [transportFailureRate]

end PassivePolicy

end Gateway
