import Gateway.Cluster.Observation
import Gateway.Proofs.Cluster.Records
import Gateway.Proofs.Traced

namespace Gateway

namespace PassivePolicy

/-! What the failure rate policy makes of an outcome: a canceled request leaves
the health as it is, any other one is sampled and judged. -/

def settingsOf (config : ClusterConfig) : RateSettings :=
  (readSettings config).value

theorem observe_transportFailureRate_frame (config : ClusterConfig) (now : Nat)
    (destination : Destination) (outcome : Outcome) :
    let health := (transportFailureRate.observe config now destination outcome).value
    health.active = destination.health.active ∧
      health.exclusions = destination.health.exclusions ∧
      health.probeFailures = destination.health.probeFailures := by
  cases outcome <;> exact ⟨rfl, rfl, rfl⟩

end PassivePolicy

namespace ActivePolicy

theorem judgeResult_frame (cluster : String) (threshold : Nat) (destination : Destination)
    (outcome : ProbeOutcome) :
    let health := (judgeResult cluster threshold destination outcome).value
    health.passive = destination.health.passive ∧
      health.exclusions = destination.health.exclusions ∧
      health.window = destination.health.window := by
  cases succeeded : outcome.isSuccess <;>
    simp [judgeResult, succeeded]

end ActivePolicy

/-- The health of a record after a report: what the policy says, where an exclusion
that begins is counted. -/
def DestinationHealth.judged (before after : DestinationHealth) : DestinationHealth :=
  if before.passive = .healthy ∧ after.passive = .unhealthy then
    { after with exclusions := after.exclusions + 1 }
  else after

theorem DestinationHealth.judged_of_not_began {before after : DestinationHealth}
    (calm : ¬ (before.passive = .healthy ∧ after.passive = .unhealthy)) :
    before.judged after = after :=
  if_neg calm

private theorem DestinationHealth.judged_of_began {before after : DestinationHealth}
    (healthy : before.passive = .healthy) (unhealthy : after.passive = .unhealthy) :
    before.judged after = { after with exclusions := after.exclusions + 1 } :=
  if_pos ⟨healthy, unhealthy⟩

namespace Cluster

/-! Two states of a cluster that differ at most in the health of records and in
the published lists. -/

structure OnlyHealth (before after : Cluster) : Prop where
  id : after.id = before.id
  model : after.model = before.model
  current : after.current = before.current
  requests : after.requests = before.requests
  cursor : after.cursor = before.cursor
  loops : after.loops = before.loops
  shutDown : after.shutDown = before.shutDown
  records : ∀ health : DestinationHealth,
    after.records.map (Destination.withHealth · health) =
      before.records.map (Destination.withHealth · health)

theorem OnlyHealth.refl (cluster : Cluster) : OnlyHealth cluster cluster :=
  ⟨rfl, rfl, rfl, rfl, rfl, rfl, rfl, fun _ => rfl⟩

theorem OnlyHealth.trans {before middle after : Cluster}
    (first : OnlyHealth before middle) (last : OnlyHealth middle after) :
    OnlyHealth before after where
  id := last.id.trans first.id
  model := last.model.trans first.model
  current := last.current.trans first.current
  requests := last.requests.trans first.requests
  cursor := last.cursor.trans first.cursor
  loops := last.loops.trans first.loops
  shutDown := last.shutDown.trans first.shutDown
  records := fun health => (last.records health).trans (first.records health)

theorem OnlyHealth.getElem? {before after : Cluster} (frame : OnlyHealth before after)
    {number : Nat} {destination : Destination}
    (stored : before.records[number]? = some destination) :
    after.records[number]? = some (destination.withHealth (after.healthOf number)) := by
  have same := congrArg (fun records : List Destination => records[number]?)
    (frame.records (after.healthOf number))
  simp only [List.getElem?_map, stored, Option.map_some, Option.map_eq_some_iff] at same
  rcases same with ⟨changed, found, equal⟩
  rw [found, ← equal, healthOf, Destination.healthAt_of_getElem? found]
  rfl

theorem OnlyHealth.requestsOf {before after : Cluster} (frame : OnlyHealth before after)
    (number : Nat) : after.requestsOf number = before.requestsOf number := by
  have same := congrArg (fun records : List Destination =>
    (records[number]?.map Destination.requests).getD 0) (frame.records {})
  simpa [Cluster.requestsOf, Destination.requestsAt, Function.comp_def,
    Destination.withHealth] using same

theorem onlyHealth_setHealth (cluster : Cluster) (record : Nat)
    (health : DestinationHealth) :
    OnlyHealth cluster (cluster.setHealth record health) := by
  refine ⟨rfl, rfl, rfl, rfl, rfl, rfl, rfl, fun other => ?_⟩
  apply List.ext_getElem?
  intro number
  by_cases here : record = number
  · subst here
    simp [setHealth, modifyRecord, Function.comp_def, Destination.withHealth]
  · simp [setHealth, modifyRecord, here]

theorem onlyHealth_publish (cluster : Cluster) :
    OnlyHealth cluster cluster.publish.value :=
  ⟨rfl, rfl, rfl, rfl, rfl, rfl, rfl, fun _ => rfl⟩

@[simp] theorem healthOf_publish (cluster : Cluster) (number : Nat) :
    cluster.publish.value.healthOf number = cluster.healthOf number := rfl

theorem healthOf_setHealth {cluster : Cluster} {record : Nat} {destination : Destination}
    (stored : cluster.records[record]? = some destination) (health : DestinationHealth)
    (number : Nat) :
    (cluster.setHealth record health).healthOf number =
      if record = number then health else cluster.healthOf number := by
  by_cases here : record = number
  · subst here
    simp [healthOf, Destination.healthAt, setHealth, modifyRecord, stored,
      Destination.withHealth]
  · simp [healthOf, Destination.healthAt, setHealth, modifyRecord, here]

theorem healthOf_of_getElem? {cluster : Cluster} {record : Nat}
    {destination : Destination} (stored : cluster.records[record]? = some destination) :
    cluster.healthOf record = destination.health :=
  Destination.healthAt_of_getElem? stored

/-- Whether a passive policy in force is a builtin one. -/
def Regular (cluster : Cluster) : Prop :=
  ∀ policy, cluster.model.passive = some policy → policy ∈ PassivePolicy.builtin

theorem Regular.eq {cluster : Cluster} (regular : cluster.Regular)
    {policy : PassivePolicy} (heard : cluster.model.passive = some policy) :
    policy = .transportFailureRate :=
  List.mem_singleton.1 (regular policy heard)

/-! Everything that a report can do. It is not heard without a policy or without
the record; otherwise the record gets the health that the policy says, and the
lists are published anew when the passive axis has moved. -/

inductive ObserveResult (cluster : Cluster) (now record : Nat) (outcome : Outcome) :
    Cluster × Option Exclusion → Prop
  | unheard (nobody : cluster.model.passive = none ∨ cluster.records[record]? = none) :
      ObserveResult cluster now record outcome (cluster, none)
  | unmoved {policy : PassivePolicy} {destination : Destination}
      {health : DestinationHealth}
      (heard : cluster.model.passive = some policy)
      (stored : cluster.records[record]? = some destination)
      (judged : (policy.observe cluster.model.config now destination outcome).value =
        health)
      (same : health.passive = destination.health.passive) :
      ObserveResult cluster now record outcome (cluster.setHealth record health, none)
  | recovered {policy : PassivePolicy} {destination : Destination}
      {health : DestinationHealth}
      (heard : cluster.model.passive = some policy)
      (stored : cluster.records[record]? = some destination)
      (judged : (policy.observe cluster.model.config now destination outcome).value =
        health)
      (before : destination.health.passive = .unhealthy)
      (healthy : health.passive = .healthy) :
      ObserveResult cluster now record outcome
        ((cluster.setHealth record health).publish.value, none)
  | excluded {policy : PassivePolicy} {destination : Destination}
      {health : DestinationHealth}
      (heard : cluster.model.passive = some policy)
      (stored : cluster.records[record]? = some destination)
      (judged : (policy.observe cluster.model.config now destination outcome).value =
        health)
      (before : destination.health.passive = .healthy)
      (unhealthy : health.passive = .unhealthy) :
      ObserveResult cluster now record outcome
        ((cluster.setHealth record health).publish.value.setHealth record
            { health with exclusions := health.exclusions + 1 },
          some
            { record
              generation := health.exclusions + 1
              period := cluster.model.config.healthCheck.passive.reactivationPeriod })

theorem observe_result (cluster : Cluster) (now record : Nat) (outcome : Outcome) :
    ObserveResult cluster now record outcome
      (cluster.observe now record outcome).value := by
  unfold observe
  split
  · rename_i policy destination heard stored
    simp only [Traced.value_bind]
    generalize judged :
      (policy.observe cluster.model.config now destination outcome).value = health
    split
    · rename_i same
      exact .unmoved heard stored judged same
    · rename_i moved
      simp only [announcePassive, Traced.value_bind]
      split
      · rename_i healthy
        have before : destination.health.passive = .unhealthy := by
          cases passive : destination.health.passive with
          | healthy => exact absurd (healthy.trans passive.symm) moved
          | unhealthy => rfl
        exact .recovered heard stored judged before healthy
      · rename_i unhealthy
        have before : destination.health.passive = .healthy := by
          cases passive : destination.health.passive with
          | healthy => rfl
          | unhealthy => exact absurd (unhealthy.trans passive.symm) moved
        exact .excluded heard stored judged before unhealthy
  · rename_i missing
    apply ObserveResult.unheard
    cases heard : cluster.model.passive with
    | none => exact .inl rfl
    | some policy =>
        cases stored : cluster.records[record]? with
        | none => exact .inr rfl
        | some destination => exact absurd stored (missing policy destination heard)

theorem onlyHealth_observe (cluster : Cluster) (now record : Nat) (outcome : Outcome) :
    OnlyHealth cluster (cluster.observe now record outcome).value.1 := by
  have result := observe_result cluster now record outcome
  generalize (cluster.observe now record outcome).value = observed at result ⊢
  cases result with
  | unheard => exact .refl cluster
  | unmoved => exact onlyHealth_setHealth _ _ _
  | recovered => exact (onlyHealth_setHealth _ _ _).trans (onlyHealth_publish _)
  | excluded =>
      exact ((onlyHealth_setHealth _ _ _).trans (onlyHealth_publish _)).trans
        (onlyHealth_setHealth _ _ _)

theorem healthOf_observe {cluster : Cluster} {policy : PassivePolicy} {record : Nat}
    {destination : Destination} (heard : cluster.model.passive = some policy)
    (stored : cluster.records[record]? = some destination) (now : Nat) (outcome : Outcome)
    (number : Nat) :
    (cluster.observe now record outcome).value.1.healthOf number =
      if number = record then
        destination.health.judged
          (policy.observe cluster.model.config now destination outcome).value
      else cluster.healthOf number := by
  have result := observe_result cluster now record outcome
  generalize (cluster.observe now record outcome).value = observed at result ⊢
  cases result with
  | unheard nobody =>
      rcases nobody with nobody | nobody
      · rw [heard] at nobody
        cases nobody
      · rw [stored] at nobody
        cases nobody
  | unmoved alsoHeard alsoStored judged same =>
      rw [heard, Option.some.injEq] at alsoHeard
      rw [stored, Option.some.injEq] at alsoStored
      subst alsoHeard alsoStored judged
      have calm : ¬ (destination.health.passive = .healthy ∧
          (policy.observe cluster.model.config now destination outcome).value.passive =
            .unhealthy) := by
        intro began
        rw [began.1, began.2] at same
        cases same
      rw [healthOf_setHealth stored, DestinationHealth.judged_of_not_began calm]
      simp only [eq_comm]
  | recovered alsoHeard alsoStored judged before =>
      rw [heard, Option.some.injEq] at alsoHeard
      rw [stored, Option.some.injEq] at alsoStored
      subst alsoHeard alsoStored judged
      have calm : ¬ (destination.health.passive = .healthy ∧
          (policy.observe cluster.model.config now destination outcome).value.passive =
            .unhealthy) := by
        intro began
        rw [before] at began
        cases began.1
      rw [healthOf_publish, healthOf_setHealth stored,
        DestinationHealth.judged_of_not_began calm]
      simp only [eq_comm]
  | @excluded _ _ health alsoHeard alsoStored judged before unhealthy =>
      rw [heard, Option.some.injEq] at alsoHeard
      rw [stored, Option.some.injEq] at alsoStored
      subst alsoHeard alsoStored judged
      have kept := (onlyHealth_setHealth cluster record
        (policy.observe cluster.model.config now destination outcome).value).getElem?
          stored
      rw [healthOf_setHealth ((onlyHealth_publish _).getElem? kept), healthOf_publish,
        healthOf_setHealth stored, DestinationHealth.judged_of_began before unhealthy]
      by_cases here : number = record
      · rw [if_pos here, if_pos here.symm]
      · rw [if_neg here, if_neg (Ne.symm here), if_neg (Ne.symm here)]

/-! The end of an exclusion: a timer that is out of date does nothing at all. -/

theorem value_reactivate_of_stale {cluster : Cluster} {exclusion : Exclusion}
    (stale : ¬ ((cluster.healthOf exclusion.record).exclusions = exclusion.generation ∧
      (cluster.healthOf exclusion.record).passive = .unhealthy)) :
    (cluster.reactivate exclusion).value = cluster := by
  unfold reactivate
  split
  · rfl
  · rename_i destination stored
    rw [healthOf_of_getElem? stored] at stale
    simp only [if_neg stale]
    rfl

theorem getElem?_of_unhealthy {cluster : Cluster} {record : Nat}
    (unhealthy : (cluster.healthOf record).passive = .unhealthy) :
    ∃ destination, cluster.records[record]? = some destination ∧
      destination.health = cluster.healthOf record := by
  cases stored : cluster.records[record]? with
  | none =>
      simp only [healthOf, Destination.healthAt, stored] at unhealthy
      cases unhealthy
  | some destination => exact ⟨destination, rfl, (healthOf_of_getElem? stored).symm⟩

theorem value_reactivate_of_current {cluster : Cluster} {exclusion : Exclusion}
    (current : (cluster.healthOf exclusion.record).exclusions = exclusion.generation)
    (unhealthy : (cluster.healthOf exclusion.record).passive = .unhealthy) :
    (cluster.reactivate exclusion).value =
      (cluster.setHealth exclusion.record
        { cluster.healthOf exclusion.record with
          window := .empty
          passive := .healthy }).publish.value := by
  rcases getElem?_of_unhealthy unhealthy with ⟨destination, stored, same⟩
  rw [← same] at current unhealthy ⊢
  simp only [reactivate, stored, if_pos (And.intro current unhealthy), Traced.value_bind]

theorem healthOf_reactivate (cluster : Cluster) (exclusion : Exclusion) (number : Nat) :
    (cluster.reactivate exclusion).value.healthOf number =
      if number = exclusion.record ∧
          (cluster.healthOf number).exclusions = exclusion.generation ∧
          (cluster.healthOf number).passive = .unhealthy then
        { cluster.healthOf number with window := .empty, passive := .healthy }
      else cluster.healthOf number := by
  by_cases current : (cluster.healthOf exclusion.record).exclusions =
    exclusion.generation ∧
      (cluster.healthOf exclusion.record).passive = .unhealthy
  · rcases getElem?_of_unhealthy current.2 with ⟨destination, stored, -⟩
    rw [value_reactivate_of_current current.1 current.2, healthOf_publish,
      healthOf_setHealth stored]
    by_cases here : number = exclusion.record
    · subst here
      rw [if_pos rfl, if_pos ⟨rfl, current⟩]
    · rw [if_neg (Ne.symm here), if_neg fun both => here both.1]
  · rw [value_reactivate_of_stale current, if_neg]
    rintro ⟨rfl, stillCurrent⟩
    exact current stillCurrent

theorem onlyHealth_reactivate (cluster : Cluster) (exclusion : Exclusion) :
    OnlyHealth cluster (cluster.reactivate exclusion).value := by
  by_cases current : (cluster.healthOf exclusion.record).exclusions =
    exclusion.generation ∧
      (cluster.healthOf exclusion.record).passive = .unhealthy
  · rw [value_reactivate_of_current current.1 current.2]
    exact (onlyHealth_setHealth _ _ _).trans (onlyHealth_publish _)
  · rw [value_reactivate_of_stale current]
    exact .refl cluster

/-! What a batch of probes does to a cluster: under any policy nothing but health
changes, and under one that only follows the active axis nothing but that. -/

theorem onlyHealth_judgeProbe (judge : Destination → ProbeOutcome →
    Effect DestinationHealth) (state : Cluster × Bool) (result : Nat × ProbeOutcome) :
    OnlyHealth state.1 (judgeProbe judge state result).value.1 := by
  rcases state with ⟨cluster, changed⟩
  simp only [judgeProbe]
  split
  · exact .refl cluster
  · rw [Traced.value_bind]
    split <;> exact onlyHealth_setHealth _ _ _

theorem onlyHealth_settleProbes (cluster : Cluster) (policy : ActivePolicy)
    (results : List (Nat × ProbeOutcome)) :
    OnlyHealth cluster (cluster.settleProbes policy results).value := by
  have judged : OnlyHealth cluster (cluster.judgeProbes policy results).value.1 :=
    Traced.fold_related (fun before after : Cluster × Bool => OnlyHealth before.1 after.1)
      (fun _ => .refl _) (fun first last => first.trans last)
      (onlyHealth_judgeProbe _) (cluster, false) results
  unfold settleProbes
  simp only [Traced.value_bind]
  split
  · exact judged.trans (onlyHealth_publish _)
  · exact judged

/-- Two states of a cluster that differ at most in what probes tell. -/
structure Probed (before after : Cluster) : Prop where
  passive : ∀ number, (after.healthOf number).passive = (before.healthOf number).passive
  exclusions : ∀ number,
    (after.healthOf number).exclusions = (before.healthOf number).exclusions
  window : ∀ number, (after.healthOf number).window = (before.healthOf number).window

theorem Probed.refl (cluster : Cluster) : Probed cluster cluster :=
  ⟨fun _ => rfl, fun _ => rfl, fun _ => rfl⟩

theorem Probed.trans {before middle after : Cluster} (first : Probed before middle)
    (last : Probed middle after) : Probed before after where
  passive := fun number => (last.passive number).trans (first.passive number)
  exclusions := fun number => (last.exclusions number).trans (first.exclusions number)
  window := fun number => (last.window number).trans (first.window number)

/-- Until the batch is published, the flag tells whether an active axis has moved. -/
structure Judged (before after : Cluster × Bool) : Prop where
  frame : OnlyHealth before.1 after.1
  probed : Probed before.1 after.1
  all : after.1.all = before.1.all
  available : after.1.available = before.1.available
  unchanged : after.2 = false →
    before.2 = false ∧
      ∀ number, (after.1.healthOf number).active = (before.1.healthOf number).active

theorem Judged.refl (state : Cluster × Bool) : Judged state state :=
  ⟨.refl _, .refl _, rfl, rfl, fun same => ⟨same, fun _ => rfl⟩⟩

theorem Judged.trans {before middle after : Cluster × Bool} (first : Judged before middle)
    (last : Judged middle after) : Judged before after where
  frame := first.frame.trans last.frame
  probed := first.probed.trans last.probed
  all := last.all.trans first.all
  available := last.available.trans first.available
  unchanged := fun same => by
    rcases last.unchanged same with ⟨middleSame, lastActive⟩
    rcases first.unchanged middleSame with ⟨beforeSame, firstActive⟩
    exact ⟨beforeSame, fun number => (lastActive number).trans (firstActive number)⟩

private theorem judged_judgeProbe {judge : Destination → ProbeOutcome →
    Effect DestinationHealth} (follows : ∀ destination outcome,
      (judge destination outcome).value.passive = destination.health.passive ∧
        (judge destination outcome).value.exclusions = destination.health.exclusions ∧
        (judge destination outcome).value.window = destination.health.window)
    (state : Cluster × Bool) (result : Nat × ProbeOutcome) :
    Judged state (judgeProbe judge state result).value := by
  have frame := onlyHealth_judgeProbe judge state result
  rcases state with ⟨cluster, changed⟩
  simp only [judgeProbe] at frame ⊢
  split
  · exact .refl _
  · rename_i destination stored
    simp only [stored, Traced.value_bind] at frame ⊢
    rcases follows destination result.2 with ⟨passive, exclusions, window⟩
    generalize (judge destination result.2).value =
      health at passive exclusions window frame ⊢
    have same := healthOf_of_getElem? stored
    have probed : Probed cluster (cluster.setHealth result.1 health) := by
      refine ⟨fun number => ?_, fun number => ?_, fun number => ?_⟩
      all_goals
        rw [healthOf_setHealth stored]
        split
        · rename_i here
          subst here
          rw [same]
          assumption
        · rfl
    split
    · rename_i still
      rw [if_pos still] at frame
      refine ⟨frame, probed, rfl, rfl, fun unchanged => ⟨unchanged, fun number => ?_⟩⟩
      rw [Traced.value_pure, healthOf_setHealth stored]
      split
      · rename_i here
        subst here
        rw [same]
        exact still
      · rfl
    · rename_i moved
      rw [if_neg moved] at frame
      exact ⟨frame, probed, rfl, rfl, nofun⟩

theorem judged_consecutiveFailures (cluster : Cluster)
    (results : List (Nat × ProbeOutcome)) :
    Judged (cluster, false)
      (cluster.judgeProbes ActivePolicy.consecutiveFailures results).value :=
  Traced.fold_related Judged .refl (fun first last => first.trans last)
    (judged_judgeProbe (ActivePolicy.judgeResult_frame _ _)) (cluster, false) results

theorem probed_settleProbes (cluster : Cluster) (results : List (Nat × ProbeOutcome)) :
    Probed cluster
      (cluster.settleProbes ActivePolicy.consecutiveFailures results).value := by
  have probed := (judged_consecutiveFailures cluster results).probed
  unfold settleProbes
  simp only [Traced.value_bind]
  split
  · exact probed.trans ⟨fun _ => rfl, fun _ => rfl, fun _ => rfl⟩
  · exact probed

end Cluster

end Gateway
