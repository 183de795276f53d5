import Gateway.Affinity.Failure
import Gateway.Affinity.Policy
import Gateway.Balancing.Balancer
import Gateway.Health.Active
import Gateway.Health.Availability
import Gateway.Health.Passive
import Gateway.Text.Folding

namespace Gateway

/-! Policies are known by name. A table finds one by its name in any case, and
has a default for configurations that name none. The entries stand in the order
in which they were added. -/

structure PolicyTable (α : Type) where
  kind : PolicyKind
  default : String
  nameOf : α → String
  entries : List α

namespace PolicyTable

/-- Of several policies with one name the last one counts: it took the place of the
others. -/
def find? {α : Type} (table : PolicyTable α) (name : String) : Option α :=
  table.entries.reverse.find? (fun entry =>
    Text.fold (table.nameOf entry) == Text.fold name)

def resolve {α : Type} (table : PolicyTable α) (cluster : String) (name : Option String) :
    Except ConfigurationFault α :=
  let name := name.getD table.default
  match table.find? name with
  | some policy => .ok policy
  | none => .error (.unknownPolicy cluster table.kind name)

def extend {α : Type} (table : PolicyTable α) (additional : List α) : PolicyTable α :=
  { table with entries := table.entries ++ additional }

/-- The carriers by the names of the policies that are built from them. -/
def carriers : PolicyTable KeyCarrier where
  kind := .sessionAffinity
  default := "Cookie"
  nameOf := KeyCarrier.name
  entries := KeyCarrier.builtin

end PolicyTable

structure Policies where
  loadBalancing : PolicyTable LoadBalancer
  affinity : PolicyTable AffinityPolicy
  affinityFailure : PolicyTable FailurePolicy
  availability : PolicyTable AvailabilityPolicy
  active : PolicyTable ActivePolicy
  passive : PolicyTable PassivePolicy

namespace Policies

def builtin (source : RandomSource) (protector : Protector) : Policies where
  loadBalancing :=
    { kind := .loadBalancing
      default := "PowerOfTwoChoices"
      nameOf := LoadBalancer.name
      entries := LoadBalancer.builtin source }
  affinity :=
    { kind := .sessionAffinity
      default := "Cookie"
      nameOf := AffinityPolicy.name
      entries := AffinityPolicy.builtin protector }
  affinityFailure :=
    { kind := .affinityFailure
      default := "Redistribute"
      nameOf := FailurePolicy.name
      entries := FailurePolicy.builtin }
  availability :=
    { kind := .availableDestinations
      default := "HealthyAndUnknown"
      nameOf := AvailabilityPolicy.name
      entries := AvailabilityPolicy.builtin }
  active :=
    { kind := .activeHealthCheck
      default := "ConsecutiveFailures"
      nameOf := ActivePolicy.name
      entries := ActivePolicy.builtin }
  passive :=
    { kind := .passiveHealthCheck
      default := "TransportFailureRate"
      nameOf := PassivePolicy.name
      entries := PassivePolicy.builtin }

end Policies

/-! A model is a configuration that was accepted, with the policies it names. -/

structure AffinityModel where
  config : AffinityConfig
  policy : AffinityPolicy
  failurePolicy : FailurePolicy

structure ClusterModel where
  config : ClusterConfig
  loadBalancing : LoadBalancer
  affinity : Option AffinityModel
  availability : AvailabilityPolicy
  active : Option ActivePolicy
  passive : Option PassivePolicy

namespace Policies

def checkDestinations (config : ClusterConfig) : Except ConfigurationFault Unit :=
  match config.destinations.entries.find? (fun entry =>
    Text.isBlankText entry.2.address) with
  | some (destination, _) => .error (.missingDestinationAddress config.id destination)
  | none => .ok ()

def resolveAffinity (policies : Policies) (config : ClusterConfig) :
    Except ConfigurationFault (Option AffinityModel) :=
  match config.affinity.filter AffinityConfig.enabled with
  | none => .ok none
  | some affinity =>
      if Http.Header.isName affinity.keyName then do
        let policy ← policies.affinity.resolve config.id affinity.policy
        let failurePolicy ←
          policies.affinityFailure.resolve config.id affinity.failurePolicy
        .ok (some { config := affinity, policy, failurePolicy })
      else .error (.invalidAffinityKeyName config.id affinity.keyName)

def resolveActive (policies : Policies) (config : ClusterConfig) :
    Except ConfigurationFault (Option ActivePolicy) :=
  let active := config.healthCheck.active
  if !active.enabled then .ok none
  else if active.interval = 0 then .error (.zeroProbeInterval config.id)
  else if active.timeout = 0 then .error (.zeroProbeTimeout config.id)
  else some <$> policies.active.resolve config.id active.policy

def resolvePassive (policies : Policies) (config : ClusterConfig) :
    Except ConfigurationFault (Option PassivePolicy) :=
  let passive := config.healthCheck.passive
  if !passive.enabled then .ok none
  else some <$> policies.passive.resolve config.id passive.policy

/-- Accepts a configuration, or names the first rule that it breaks. Settings of
a disabled feature are not looked at. -/
def resolve (policies : Policies) (config : ClusterConfig) :
    Except ConfigurationFault ClusterModel := do
  if Text.isBlankText config.id then .error .emptyClusterId
  checkDestinations config
  if config.forwarding.activityTimeout = 0 then .error (.zeroActivityTimeout config.id)
  let loadBalancing ← policies.loadBalancing.resolve config.id config.loadBalancing
  let affinity ← policies.resolveAffinity config
  let availability ←
    policies.availability.resolve config.id config.healthCheck.availability
  let active ← policies.resolveActive config
  let passive ← policies.resolvePassive config
  .ok { config, loadBalancing, affinity, availability, active, passive }

end Policies

end Gateway
