import Gateway.Proofs.Exclusions.History

namespace Gateway

/-! How a batch of probes is judged under the builtin policy: each record by its own
result, and the flag says whether an active axis has moved. -/

def ClusterConfig.probeThreshold (config : ClusterConfig) : Nat :=
  config.metadataOr ActivePolicy.thresholdKey Metadata.read32?
    ActivePolicy.defaultThreshold

/-- The failures in a row at which probes find a destination unhealthy: what the metadata
of its cluster give, and two by default. -/
def ClusterConfig.ThresholdInForce (config : ClusterConfig) (threshold : Nat) : Prop :=
  config.Setting "ConsecutiveFailuresHealthPolicy.Threshold"
    (fun text value => Decimal.Numeral text.toList value ∧ value < 2 ^ 32) 2 threshold

theorem ClusterConfig.thresholdInForce (config : ClusterConfig) :
    config.ThresholdInForce config.probeThreshold :=
  (setting_iff Metadata.read32?_eq_some).2 rfl

def DestinationHealth.probed (health : DestinationHealth) (threshold : Nat)
    (outcome : ProbeOutcome) : DestinationHealth :=
  if outcome.isSuccess then
    { health with probeFailures := 0, active := ActivePolicy.verdict threshold 0 }
  else
    { health with
      probeFailures := health.probeFailures + 1
      active :=
        ActivePolicy.verdict threshold (ActivePolicy.nextFailures health.probeFailures) }

namespace ActivePolicy

private theorem value_judgeResult (cluster : String) (threshold : Nat)
    (destination : Destination) (outcome : ProbeOutcome) :
    (judgeResult cluster threshold destination outcome).value =
      destination.health.probed threshold outcome := by
  cases succeeded : outcome.isSuccess with
  | true => simp only [judgeResult, DestinationHealth.probed, succeeded, if_true,
              Traced.value_pure]
  | false =>
      simp only [judgeResult, DestinationHealth.probed, succeeded, Bool.false_eq_true,
        if_false, Traced.value_bind, Traced.value_pure]

private theorem value_judge_consecutiveFailures (config : ClusterConfig) :
    (consecutiveFailures.judge config).value =
      judgeResult config.id config.probeThreshold := by
  simp only [consecutiveFailures, Traced.value_bind, Traced.value_pure,
    ClusterConfig.value_metadataValue, ClusterConfig.probeThreshold]

end ActivePolicy

namespace Cluster

theorem OnlyHealth.length {before after : Cluster} (frame : OnlyHealth before after) :
    after.records.length = before.records.length := by
  have same := congrArg List.length (frame.records {})
  rwa [List.length_map, List.length_map] at same

section Judging

variable {id : String} {threshold : Nat} {number : Nat}

def judgeAll (id : String) (threshold : Nat) (state : Cluster × Bool)
    (results : List (Nat × ProbeOutcome)) : Effect (Cluster × Bool) :=
  Traced.fold (judgeProbe (ActivePolicy.judgeResult id threshold)) state results

theorem healthOf_judgeProbe (id : String) (threshold : Nat) (state : Cluster × Bool)
    (result : Nat × ProbeOutcome)
    (stored : number < state.1.records.length) :
    (judgeProbe (ActivePolicy.judgeResult id threshold) state
        result).value.1.healthOf number =
      if result.1 = number then (state.1.healthOf number).probed threshold result.2
      else state.1.healthOf number := by
  rcases state with ⟨cluster, changed⟩
  simp only [judgeProbe]
  split
  · rename_i missing
    have different : result.1 ≠ number := by
      rintro rfl
      exact absurd stored (Nat.not_lt_of_le (List.getElem?_eq_none_iff.1 missing))
    rw [if_neg different]
    rfl
  · rename_i destination there
    have judged :=
      healthOf_setHealth there (destination.health.probed threshold result.2) number
    simp only [Traced.value_bind, ActivePolicy.value_judgeResult]
    by_cases here : result.1 = number
    · rw [if_pos here, ← here, healthOf_of_getElem? there]
      rw [if_pos here, ← here] at judged
      split <;> exact judged
    · rw [if_neg here] at judged ⊢
      split <;> exact judged

theorem changed_judgeProbe (state : Cluster × Bool) (result : Nat × ProbeOutcome) :
    let judged := (judgeProbe (ActivePolicy.judgeResult id threshold) state result).value
    judged.2 = true ↔ state.2 = true ∨
      (judged.1.healthOf result.1).active ≠ (state.1.healthOf result.1).active := by
  rcases state with ⟨cluster, changed⟩
  simp only [judgeProbe]
  split
  · simp
  · rename_i destination there
    have judged :=
      healthOf_setHealth there (destination.health.probed threshold result.2) result.1
    rw [if_pos rfl] at judged
    simp only [Traced.value_bind, ActivePolicy.value_judgeResult]
    rw [healthOf_of_getElem? there]
    split
    · rename_i same
      rw [Traced.value_pure, judged]
      exact ⟨.inl, fun moved => moved.resolve_right (not_not_intro same)⟩
    · rename_i moved
      have axis := congrArg DestinationHealth.active judged
      exact ⟨fun _ => .inr fun same => moved (axis.symm.trans same), fun _ => rfl⟩

private theorem healthOf_judgeProbe_of_ne (state : Cluster × Bool)
    {result : Nat × ProbeOutcome} (different : result.1 ≠ number) :
    (judgeProbe (ActivePolicy.judgeResult id threshold) state
        result).value.1.healthOf number =
      state.1.healthOf number := by
  rcases state with ⟨cluster, changed⟩
  simp only [judgeProbe]
  split
  · rfl
  · rename_i destination there
    have judged := healthOf_setHealth there
      (ActivePolicy.judgeResult id threshold destination result.2).value number
    rw [if_neg different] at judged
    simp only [Traced.value_bind]
    split <;> exact judged

theorem healthOf_judgeAll_of_notMem (state : Cluster × Bool)
    {results : List (Nat × ProbeOutcome)} (unlisted : number ∉ results.map Prod.fst) :
    (judgeAll id threshold state results).value.1.healthOf number =
      state.1.healthOf number := by
  induction results generalizing state with
  | nil => rfl
  | cons result rest induction =>
      rw [List.map_cons, List.mem_cons, not_or] at unlisted
      exact (induction _ unlisted.2).trans
        (healthOf_judgeProbe_of_ne state (Ne.symm unlisted.1))

theorem healthOf_judgeAll (state : Cluster × Bool) {results : List (Nat × ProbeOutcome)}
    (distinct : (results.map Prod.fst).Nodup) (stored : number < state.1.records.length) :
    (judgeAll id threshold state results).value.1.healthOf number =
      (results.lookup number).elim (state.1.healthOf number)
        ((state.1.healthOf number).probed threshold) := by
  induction results generalizing state with
  | nil => rfl
  | cons result rest induction =>
      rcases result with ⟨record, outcome⟩
      rw [List.map_cons, List.nodup_cons] at distinct
      have length := (onlyHealth_judgeProbe (ActivePolicy.judgeResult id threshold) state
        (record, outcome)).length
      have later := induction
        (judgeProbe (ActivePolicy.judgeResult id threshold) state (record, outcome)).value
        distinct.2 (length ▸ stored)
      have first := healthOf_judgeProbe id threshold state (record, outcome) stored
      by_cases here : record = number
      · subst here
        rw [if_pos rfl] at first
        rw [List.lookup_cons_self, Option.elim_some, ← first]
        exact healthOf_judgeAll_of_notMem _ distinct.1
      · rw [if_neg here] at first
        rw [first] at later
        have other : (number == record) = false := beq_false_of_ne (Ne.symm here)
        rw [List.lookup_cons, other]
        exact later

theorem changed_judgeAll (state : Cluster × Bool) {results : List (Nat × ProbeOutcome)}
    (distinct : (results.map Prod.fst).Nodup) :
    (judgeAll id threshold state results).value.2 = true ↔ state.2 = true ∨
      ∃ number, ((judgeAll id threshold state results).value.1.healthOf number).active ≠
        (state.1.healthOf number).active := by
  induction results generalizing state with
  | nil => exact ⟨.inl, fun moved => moved.resolve_right fun ⟨_, moved⟩ => moved rfl⟩
  | cons result rest induction =>
      rw [List.map_cons, List.nodup_cons] at distinct
      let middle :=
        (judgeProbe (ActivePolicy.judgeResult id threshold) state result).value
      let after := (judgeAll id threshold middle rest).value
      have first : middle.2 = true ↔ _ := changed_judgeProbe state result
      have own : after.1.healthOf result.1 = middle.1.healthOf result.1 :=
        healthOf_judgeAll_of_notMem _ distinct.1
      have others : ∀ number, result.1 ≠ number →
          middle.1.healthOf number = state.1.healthOf number :=
        fun number different => healthOf_judgeProbe_of_ne state different
      change after.2 = true ↔ _ ∨ ∃ number, (after.1.healthOf number).active ≠ _
      rw [show after.2 = true ↔ _ from induction middle distinct.2, first, or_assoc]
      refine or_congr_right ⟨?_, ?_⟩
      · rintro (moved | ⟨number, moved⟩)
        · exact ⟨result.1, own ▸ moved⟩
        · refine ⟨number, ?_⟩
          rw [← others number]
          · exact moved
          · rintro rfl
            exact moved (congrArg _ own)
      · rintro ⟨number, moved⟩
        by_cases here : result.1 = number
        · subst here
          exact .inl (own ▸ moved)
        · refine .inr ⟨number, ?_⟩
          rw [others number here]
          exact moved

end Judging

variable (cluster : Cluster) {results : List (Nat × ProbeOutcome)}

theorem judgeProbes_consecutiveFailures :
    (cluster.judgeProbes .consecutiveFailures results).value =
      (judgeAll cluster.model.config.id cluster.model.config.probeThreshold
        (cluster, false)
        results).value := by
  simp only [judgeProbes, Traced.value_bind, ActivePolicy.value_judge_consecutiveFailures,
    judgeAll]

theorem healthOf_settleProbes (policy : ActivePolicy)
    (results : List (Nat × ProbeOutcome)) (number : Nat) :
    (cluster.settleProbes policy results).value.healthOf number =
      (cluster.judgeProbes policy results).value.1.healthOf number := by
  simp only [settleProbes, Traced.value_bind]
  split <;> rfl

theorem healthOf_settled (distinct : (results.map Prod.fst).Nodup)
    (stored : ∀ record ∈ results.map Prod.fst, record < cluster.records.length)
    (number : Nat) :
    (cluster.settleProbes .consecutiveFailures results).value.healthOf number =
      (results.lookup number).elim (cluster.healthOf number)
        ((cluster.healthOf number).probed cluster.model.config.probeThreshold) := by
  rw [healthOf_settleProbes, judgeProbes_consecutiveFailures]
  by_cases listed : number ∈ results.map Prod.fst
  · exact healthOf_judgeAll _ distinct (stored number listed)
  · have unlisted : results.lookup number = none := by
      refine List.lookup_eq_none_iff.2 fun result there => bne_iff_ne.2 fun same => ?_
      exact listed (same ▸ List.mem_map_of_mem there)
    rw [unlisted]
    exact healthOf_judgeAll_of_notMem _ listed

theorem changed_judgeProbes (distinct : (results.map Prod.fst).Nodup) :
    (cluster.judgeProbes .consecutiveFailures results).value.2 = true ↔
      ∃ number, ((cluster.settleProbes .consecutiveFailures results).value.healthOf
        number).active ≠ (cluster.healthOf number).active := by
  simp only [healthOf_settleProbes, judgeProbes_consecutiveFailures]
  exact (changed_judgeAll _ distinct).trans
    ⟨fun moved => moved.resolve_left Bool.false_ne_true, .inr⟩

end Cluster

end Gateway
