import Gateway.Configuration.Metadata
import Gateway.Health.Destination
import Gateway.Outcome

namespace Gateway

/-! Active health checks judge destinations by the results of probes. A policy
reads its settings once for every batch of results; what it returns then judges
the results one by one. -/

structure ActivePolicy where
  name : String
  judge : ClusterConfig → Effect (Destination → ProbeOutcome → Effect DestinationHealth)

namespace ActivePolicy

def thresholdKey : String := "ConsecutiveFailuresHealthPolicy.Threshold"

def defaultThreshold : Nat := 2

/-- One more failure in a row, counted no further than a word reaches. -/
def nextFailures (failures : UInt32) : Nat :=
  min (failures.toNat + 1) 0xffffffff

def verdict (threshold failures : Nat) : ActiveHealth :=
  if threshold ≤ failures then .unhealthy else .healthy

def judgeResult (cluster : String) (threshold : Nat) (destination : Destination)
    (outcome : ProbeOutcome) : Effect DestinationHealth :=
  let health := destination.health
  if outcome.isSuccess then
    pure { health with probeFailures := 0, active := verdict threshold 0 }
  else do
    Effect.tellOf cluster (.probeFailed destination.id outcome)
    pure
      { health with
        probeFailures := health.probeFailures + 1
        active := verdict threshold (nextFailures health.probeFailures) }

/-- Unhealthy after as many failures in a row as the metadata say. The stored
count is a word that wraps. -/
def consecutiveFailures : ActivePolicy where
  name := "ConsecutiveFailures"
  judge config := do
    let threshold ← config.metadataValue thresholdKey Metadata.read32? defaultThreshold
    pure (judgeResult config.id threshold)

def builtin : List ActivePolicy :=
  [consecutiveFailures]

end ActivePolicy

end Gateway
