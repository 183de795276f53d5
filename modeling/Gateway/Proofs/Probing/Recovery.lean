import Gateway.Proofs.Probing.Verdicts
import Gateway.Proofs.Snapshots

namespace Gateway

/-! What a success makes of a record: its row of failures is over, and it is healthy
unless the threshold is zero, which no count is below. -/

/-! What is read as zero: zeros alone, at least one, with an optional plus sign. -/

namespace Decimal

private theorem digitValue_eq_zero_iff {character : Char}
    (digit : isDigit character = true) :
    digitValue character = 0 ↔ character = '0' := by
  have least : '0' ≤ character := of_decide_eq_true (Bool.and_eq_true_iff.1 digit).1
  have bound : '0'.toNat ≤ character.toNat := least
  rw [digitValue, ← Char.toNat_inj]
  omega

private theorem natOfDigits_eq_zero_iff (digits : List Char) :
    natOfDigits digits = 0 ↔ ∀ digit ∈ digits, digitValue digit = 0 := by
  have folded :
      ∀ start, digits.foldl (fun value digit => value * 10 + digitValue digit) start = 0 ↔
        start = 0 ∧ ∀ digit ∈ digits, digitValue digit = 0 := by
    induction digits with
    | nil => simp
    | cons digit rest induction =>
        intro start
        rw [List.foldl_cons, induction, List.forall_mem_cons, ← and_assoc]
        refine and_congr_left fun _ => ?_
        omega
  exact (folded 0).trans (and_iff_right rfl)

private theorem digits?_eq_zero_iff (digits : List Char) :
    digits? digits = some 0 ↔ ∃ zeros, digits = List.replicate (zeros + 1) '0' := by
  rw [digits?, Option.ite_none_left_eq_some, Option.some_inj, natOfDigits_eq_zero_iff,
    Bool.or_eq_true, not_or, List.isEmpty_iff, Bool.not_eq_true, Bool.not_eq_false',
    List.all_eq_true]
  constructor
  · rintro ⟨⟨some, regular⟩, zero⟩
    rcases List.exists_cons_of_ne_nil some with ⟨first, rest, rfl⟩
    refine ⟨rest.length, List.eq_replicate_iff.2 ⟨rfl, fun digit there => ?_⟩⟩
    exact (digitValue_eq_zero_iff (regular digit there)).1 (zero digit there)
  · rintro ⟨zeros, rfl⟩
    refine ⟨⟨List.cons_ne_nil _ _, fun digit there => ?_⟩, fun digit there => ?_⟩
    · rw [List.eq_of_mem_replicate there]
      rfl
    · rw [List.eq_of_mem_replicate there]
      rfl

private theorem natural?_eq_zero_iff (characters : List Char) :
    natural? characters = some 0 ↔ ∃ zeros, characters = List.replicate (zeros + 1) '0' ∨
      characters = '+' :: List.replicate (zeros + 1) '0' := by
  unfold natural?
  split
  · rename_i rest
    rw [digits?_eq_zero_iff]
    refine exists_congr fun zeros => ?_
    simp [List.replicate_succ]
  · rename_i sign
    rw [digits?_eq_zero_iff]
    exact exists_congr fun zeros => (or_iff_left (sign _)).symm

end Decimal

/-- The metadata of a cluster give its threshold as zero. -/
def ClusterConfig.ZeroThreshold (config : ClusterConfig) : Prop :=
  ∃ text zeros, config.metadata.get? ActivePolicy.thresholdKey = some text ∧
    (text.toList = List.replicate (zeros + 1) '0' ∨
      text.toList = '+' :: List.replicate (zeros + 1) '0')

private theorem ClusterConfig.probeThreshold_eq_zero_iff (config : ClusterConfig) :
    config.probeThreshold = 0 ↔ config.ZeroThreshold := by
  have read :
      ∀ text, Metadata.read32? text = some 0 ↔ Decimal.natural? text.toList = some 0 := by
    intro text
    rw [Metadata.read32?, Decimal.naturalBelow?, Option.filter_eq_some_iff]
    exact and_iff_left (by decide)
  rw [probeThreshold, metadataOr, ZeroThreshold]
  cases config.metadata.get? ActivePolicy.thresholdKey with
  | none => simp [ActivePolicy.defaultThreshold]
  | some text =>
      have malformed : ActivePolicy.defaultThreshold ≠ 0 := by decide
      rw [Option.bind_some]
      have zero : (Metadata.read32? text).getD ActivePolicy.defaultThreshold = 0 ↔
          Metadata.read32? text = some 0 := by
        cases Metadata.read32? text with
        | none =>
            exact ⟨fun same => absurd same malformed,
              fun read => absurd read.symm (Option.some_ne_none 0)⟩
        | some value => exact Option.some_inj.symm
      rw [zero, read, Decimal.natural?_eq_zero_iff]
      simp

namespace Cluster

variable {cluster : Cluster} {record : Nat} {outcome : ProbeOutcome}
  {first last : List (Nat × ProbeOutcome)}

theorem healthOf_settled_last (stored : record < cluster.records.length)
    (final : record ∉ last.map Prod.fst) :
    (cluster.settleProbes .consecutiveFailures
        (first ++ (record, outcome) :: last)).value.healthOf record =
      ((cluster.judgeProbes .consecutiveFailures first).value.1.healthOf record).probed
        cluster.model.config.probeThreshold outcome := by
  have length := (judged_consecutiveFailures cluster first).frame.length
  simp only [healthOf_settleProbes, judgeProbes_consecutiveFailures] at length ⊢
  let state := (judgeAll cluster.model.config.id cluster.model.config.probeThreshold
    (cluster, false) first).value
  have own :=
    healthOf_judgeProbe cluster.model.config.id cluster.model.config.probeThreshold state
    (record, outcome) (length ▸ stored)
  rw [judgeAll, Traced.value_fold_append]
  exact (healthOf_judgeAll_of_notMem _ final).trans (own.trans (if_pos rfl))

theorem settled_of_moved {results : List (Nat × ProbeOutcome)}
    (moved :
      ((cluster.settleProbes .consecutiveFailures results).value.healthOf record).active ≠
        (cluster.healthOf record).active) :
    (cluster.judgeProbes .consecutiveFailures results).value.2 = true ∧
      (cluster.settleProbes .consecutiveFailures results).value =
        (cluster.judgeProbes .consecutiveFailures results).value.1.publish.value := by
  have judged := judged_consecutiveFailures cluster results
  rw [healthOf_settleProbes] at moved
  have changed : (cluster.judgeProbes .consecutiveFailures results).value.2 = true := by
    by_contra unchanged
    exact moved ((judged.unchanged (Bool.eq_false_iff.2 unchanged)).2 record)
  refine ⟨changed, ?_⟩
  simp only [settleProbes, Traced.value_bind, changed, if_true]

theorem Coherent.mem_available (coherent : cluster.Coherent)
    (listed : record ∈ cluster.current.values) (admitted : cluster.admits record = true) :
    record ∈ cluster.available := by
  rw [coherent.available, selected]
  split
  · exact listed
  · exact List.mem_filter.2 ⟨listed, admitted⟩

end Cluster

namespace Scene

/-- In every reachable state, let a batch of results be judged for a cluster, and let the
last result of one of its records be a success. Then the row of failures of that record is
over, and the record is healthy, unless the metadata give the threshold as zero: then it
is unhealthy. If it has recovered, the batch is reported as changed and the cluster is
published again, with that record among the available ones if it is configured and no
reports exclude it. -/
theorem recovery_after (source : RandomSource) (protector : Protector) (background : Bool)
    (run : List Operation) (ref : ClusterRef) (cluster : Cluster)
    (present :
      ((fresh (.builtin source protector) background).after run).router.cluster? ref =
        some cluster)
    (first last : List (Nat × ProbeOutcome)) (record : Nat) (outcome : ProbeOutcome)
    (stored : record < cluster.records.length) (answered : outcome.isSuccess = true)
    (final : record ∉ last.map Prod.fst) :
    let router := ((fresh (.builtin source protector) background).after run).router
    let results := first ++ (record, outcome) :: last
    let judged := (cluster.judgeProbes .consecutiveFailures results).value
    ∃ settled,
      (router.judge ref .consecutiveFailures (.completed results)).value.cluster? ref =
        some settled ∧
      (settled.healthOf record).probeFailures = 0 ∧
      ((settled.healthOf record).active = .healthy ↔
        ¬ cluster.model.config.ZeroThreshold) ∧
      ((settled.healthOf record).active = .unhealthy ↔
        cluster.model.config.ZeroThreshold) ∧
      ((cluster.healthOf record).active = .unhealthy →
        (settled.healthOf record).active = .healthy →
          judged.2 = true ∧ settled = judged.1.publish.value ∧
            (record ∈ cluster.current.values →
              (cluster.model.config.healthCheck.passive.enabled = true →
                (cluster.healthOf record).passive ≠ .unhealthy) →
              record ∈ settled.available)) := by
  intro router results judged
  let settled := (cluster.settleProbes .consecutiveFailures results).value
  have health : settled.healthOf record = _ := Cluster.healthOf_settled_last stored final
  rw [DestinationHealth.probed, answered, if_pos rfl] at health
  have active : (settled.healthOf record).active = ActivePolicy.verdict _ 0 :=
    congrArg DestinationHealth.active health
  have there :
      (router.judge ref .consecutiveFailures (.completed results)).value.cluster? ref =
        some settled := by
    simp only [Router.judge, Router.value_withCluster, Traced.value_map,
      Router.cluster?_mapCluster, if_true]
    rw [show router.cluster? ref = some cluster from present]
    rfl
  have zero := cluster.model.config.probeThreshold_eq_zero_iff
  refine ⟨settled, there, congrArg DestinationHealth.probeFailures health, ?_, ?_, ?_⟩
  · rw [active, ActivePolicy.verdict_eq_healthy_iff, Nat.le_zero, zero]
  · rw [active, ActivePolicy.verdict_eq_unhealthy_iff, Nat.le_zero, zero]
  intro excluded recovered
  have moved : (settled.healthOf record).active ≠ (cluster.healthOf record).active := by
    rw [excluded, recovered]
    exact ActiveHealth.noConfusion
  rcases Cluster.settled_of_moved moved with ⟨changed, published⟩
  refine ⟨changed, published, fun listed calm => ?_⟩
  have choosing := Policies.choosing_builtin source protector
  have accepted := (known_after choosing background run).models ref cluster present
  have before := coherent_after source protector background run ref cluster present
  have coherent : settled.Coherent :=
    before.settleProbes (Policies.availability_mem_builtin accepted) results
  have frame := Cluster.onlyHealth_settleProbes cluster .consecutiveFailures results
  have passive := (Cluster.probed_settleProbes cluster results).passive record
  refine coherent.mem_available (frame.current ▸ listed) ?_
  rw [Cluster.admits, HealthCheckConfig.admits, frame.model, recovered, passive]
  simpa [imp_iff_not_or] using calm

def failingRun : List Operation :=
  .check sampleRef :: .check sampleRef :: ailing

/-- An unhealthy destination that answers again is available again. -/
theorem recovery_after_failures :
    ∃ cluster settled,
      (sample.after failingRun).router.cluster? sampleRef = some cluster ∧
      (cluster.healthOf 0).active = .unhealthy ∧ cluster.available = [1] ∧
      ((sample.after failingRun).router.judge sampleRef .consecutiveFailures
        (.completed [(0, .answered 204)])).value.cluster? sampleRef = some settled ∧
      (settled.healthOf 0).active = .healthy ∧ 0 ∈ settled.available := by
  have lists : ((sample.after failingRun).router.cluster? sampleRef).map (fun cluster =>
      (cluster.records.length, cluster.current.values, cluster.available,
        (cluster.healthOf 0).active)) = some (2, [0, 1], [1], .unhealthy) := by
    decide +kernel
  have calm : ((sample.after failingRun).router.cluster? sampleRef).map (fun cluster =>
      ((cluster.healthOf 0).passive, cluster.model.config.metadata.get?
        ActivePolicy.thresholdKey)) = some (.healthy, none) := by
    decide +kernel
  rcases Option.map_eq_some_iff.1 lists with ⟨cluster, present, same⟩
  rw [present, Option.map_some, Option.some_inj] at calm
  simp only [Prod.mk.injEq] at same calm
  rcases same with ⟨length, current, available, excluded⟩
  rcases calm with ⟨passive, metadata⟩
  have recovered := recovery_after _ _ true failingRun sampleRef cluster present [] [] 0
    (.answered 204) (by omega) rfl List.not_mem_nil
  rcases recovered with ⟨settled, there, -, healthy, -, published⟩
  have given : ¬ cluster.model.config.ZeroThreshold := by
    rintro ⟨text, -, stated, -⟩
    rw [metadata] at stated
    cases stated
  refine ⟨cluster, settled, present, excluded, available, there, healthy.2 given, ?_⟩
  refine (published excluded (healthy.2 given)).2.2 (by simp [current]) fun _ => ?_
  rw [passive]
  nofun

def intolerantConfig : ClusterConfig :=
  { probedConfig with metadata := .ofList [(ActivePolicy.thresholdKey, "0")] }

/-- Both of its destinations answer their first probe, which leaves none of them
available. -/
theorem recovery_fails_at_zero :
    let run := [.check sampleRef, .configure intolerantConfig]
    (sample.rulings run).map (fun ruling =>
      (ruling.outcome? sampleRef 0, (ruling.after.healthOf sampleRef 0).active)) =
        [(some (.answered 200), .unhealthy)] ∧
      ((sample.after run).router.cluster? sampleRef).map Cluster.available = some [] := by
  refine ⟨?_, ?_⟩
  · decide +kernel
  · decide +kernel

end Scene

end Gateway
