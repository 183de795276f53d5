import Gateway.Cluster.Basic

namespace Gateway

/-! How a cluster takes in what happens to its destinations: outcomes of
requests, results of probes, and the end of an exclusion. Whenever an axis
changes, the lists are published anew. -/

/-- An exclusion that began: the record, which of its exclusions it is, and how
long it lasts. -/
structure Exclusion where
  record : Nat
  generation : UInt64
  period : Nat
  deriving Repr, DecidableEq

namespace Cluster

def setHealth (cluster : Cluster) (record : Nat) (health : DestinationHealth) : Cluster :=
  cluster.modifyRecord record (fun destination => destination.withHealth health)

/-- Publishes a change of the passive axis and says so. The record has its new
health already. -/
def announcePassive (cluster : Cluster) (record : Nat) (destination : Destination)
    (health : DestinationHealth) : Effect (Cluster × Option Exclusion) := do
  let cluster ← cluster.publish
  match health.passive with
  | .healthy => do
      Effect.tellOf cluster.id (.recovered destination.id)
      pure (cluster, none)
  | .unhealthy => do
      let period := cluster.model.config.healthCheck.passive.reactivationPeriod
      let generation := health.exclusions + 1
      Effect.tellOf cluster.id (.excluded destination.id period)
      pure
        (cluster.setHealth record { health with exclusions := generation },
          some { record, generation, period })

def observe (cluster : Cluster) (now record : Nat) (outcome : Outcome) :
    Effect (Cluster × Option Exclusion) :=
  match cluster.model.passive, cluster.records[record]? with
  | some policy, some destination => do
      let health ← policy.observe cluster.model.config now destination outcome
      let judged := cluster.setHealth record health
      if health.passive = destination.health.passive then pure (judged, none)
      else judged.announcePassive record destination health
  | _, _ => pure (cluster, none)

/-- Ends an exclusion when its period is over, unless the destination recovered
or was excluded again in the meantime. -/
def reactivate (cluster : Cluster) (exclusion : Exclusion) : Effect Cluster :=
  match cluster.records[exclusion.record]? with
  | none => pure cluster
  | some destination =>
      let health := destination.health
      if health.exclusions = exclusion.generation ∧ health.passive = .unhealthy then do
        let restored := { health with window := .empty, passive := .healthy }
        Effect.tellOf cluster.id (.reactivated destination.id exclusion.period)
        (cluster.setHealth exclusion.record restored).publish
      else pure cluster

/-- Judges one probe result. The flag says whether an active axis has changed. -/
def judgeProbe (judge : Destination → ProbeOutcome → Effect DestinationHealth)
    (state : Cluster × Bool) (result : Nat × ProbeOutcome) : Effect (Cluster × Bool) :=
  let (cluster, changed) := state
  match cluster.records[result.1]? with
  | none => pure (cluster, changed)
  | some destination => do
      let health ← judge destination result.2
      let cluster := cluster.setHealth result.1 health
      if health.active = destination.health.active then pure (cluster, changed)
      else do
        Effect.tellOf cluster.id
          (.activeHealthChanged destination.id destination.health.active health.active)
        pure (cluster, true)

/-- Judges a batch of probe results under the settings of the moment. -/
def judgeProbes (cluster : Cluster) (policy : ActivePolicy)
    (results : List (Nat × ProbeOutcome)) :
    Effect (Cluster × Bool) := do
  let judge ← policy.judge cluster.model.config
  Traced.fold (judgeProbe judge) (cluster, false) results

def settleProbes (cluster : Cluster) (policy : ActivePolicy)
    (results : List (Nat × ProbeOutcome)) : Effect Cluster := do
  let (cluster, changed) ← cluster.judgeProbes policy results
  if changed then cluster.publish else pure cluster

end Cluster

end Gateway
