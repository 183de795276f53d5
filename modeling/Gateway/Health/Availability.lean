import Gateway.Event
import Gateway.Health.Destination

namespace Gateway

/-! Which destinations of a cluster may be chosen. A disabled axis counts as
healthy, whatever it recorded while it was enabled. -/

namespace HealthCheckConfig

def admits (config : HealthCheckConfig) (health : DestinationHealth) : Bool :=
  (!config.active.enabled || health.active != .unhealthy) &&
    (!config.passive.enabled || health.passive != .unhealthy)

end HealthCheckConfig

structure AvailabilityPolicy where
  name : String
  select : ClusterConfig → List Candidate → Effect (List Candidate)

namespace AvailabilityPolicy

def admitted (config : ClusterConfig) (all : List Candidate) : List Candidate :=
  all.filter (fun candidate => config.healthCheck.admits candidate.destination.health)

def healthyAndUnknown : AvailabilityPolicy where
  name := "HealthyAndUnknown"
  select config all := pure (admitted config all)

/-- As long as no destination is admitted, all of them are. -/
def healthyOrPanic : AvailabilityPolicy where
  name := "HealthyOrPanic"
  select config all :=
    if (admitted config all).isEmpty && !all.isEmpty then do
      Effect.tellOf config.id (.noHealthyDestinations all.length)
      pure all
    else pure (admitted config all)

def builtin : List AvailabilityPolicy :=
  [healthyAndUnknown, healthyOrPanic]

end AvailabilityPolicy

end Gateway
