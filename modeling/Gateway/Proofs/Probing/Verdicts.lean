import Gateway.Proofs.Probing.Awaited
import Mathlib.Data.List.DropRight

namespace Gateway

/-! The active axis of a record, told by the results of its probes. What is compared with
the threshold is the number of failures in a row, as long as the count of them has not
wrapped. -/

namespace ProbeOutcome

/-- The failures since the last success, or since the first result. -/
def failuresInARow (outcomes : List ProbeOutcome) : Nat :=
  (outcomes.rtakeWhile (fun outcome => !outcome.isSuccess)).length

theorem failuresInARow_concat (outcomes : List ProbeOutcome) (outcome : ProbeOutcome) :
    failuresInARow (outcomes ++ [outcome]) =
      if outcome.isSuccess then 0 else failuresInARow outcomes + 1 := by
  rw [failuresInARow, List.rtakeWhile_concat]
  cases outcome.isSuccess with
  | true => rfl
  | false => exact List.length_append

end ProbeOutcome

open ProbeOutcome

namespace ActivePolicy

theorem verdict_eq_unhealthy_iff (threshold failures : Nat) :
    verdict threshold failures = .unhealthy ↔ threshold ≤ failures := by
  unfold verdict
  split
  · exact ⟨fun _ => ‹_›, fun _ => rfl⟩
  · rename_i below
    exact ⟨nofun, fun reached => absurd reached below⟩

theorem verdict_eq_healthy_iff (threshold failures : Nat) :
    verdict threshold failures = .healthy ↔ ¬ threshold ≤ failures := by
  unfold verdict
  split
  · rename_i reached
    exact ⟨nofun, fun below => absurd reached below⟩
  · exact ⟨fun _ => ‹_›, fun _ => rfl⟩

/-- What is compared with the threshold after some failures in a row: their number, until
the word wraps that counts them. -/
def compared : Nat → Nat
  | 0 => 0
  | failures + 1 => min (failures % 2 ^ 32 + 1) 0xffffffff

theorem compared_of_lt {failures : Nat} (few : failures < 2 ^ 32) :
    compared failures = failures := by
  cases failures with
  | zero => rfl
  | succ failures =>
      rw [compared, Nat.mod_eq_of_lt (by omega)]
      omega

end ActivePolicy

namespace DestinationHealth

variable {health : DestinationHealth} {failures : Nat}

theorem probeFailures_probed (counted : health.probeFailures.toNat = failures % 2 ^ 32)
    (threshold : Nat) (outcome : ProbeOutcome) :
    (health.probed threshold outcome).probeFailures.toNat =
      (if outcome.isSuccess then 0 else failures + 1) % 2 ^ 32 := by
  rw [probed]
  cases outcome.isSuccess with
  | true => rfl
  | false =>
      have sum :
          (health.probeFailures + 1).toNat = (health.probeFailures.toNat + 1) % 2 ^ 32 :=
        UInt32.toNat_add _ _
      simp only [Bool.false_eq_true, if_false, sum, counted]
      omega

private theorem active_probed (counted : health.probeFailures.toNat = failures % 2 ^ 32)
    (threshold : Nat) (outcome : ProbeOutcome) :
    (health.probed threshold outcome).active =
      ActivePolicy.verdict threshold
        (ActivePolicy.compared (if outcome.isSuccess then 0 else failures + 1)) := by
  rw [probed]
  cases outcome.isSuccess with
  | true => rfl
  | false =>
      simp only [Bool.false_eq_true, if_false, ActivePolicy.nextFailures, counted,
        ActivePolicy.compared]

end DestinationHealth

namespace Ruling

variable {source : RandomSource} {protector : Protector} {ruling : Ruling}
  {ref : ClusterRef} {record : Nat}

private theorem value_after (ruling : Ruling) :
    ruling.after = ruling.router.mapCluster ruling.cluster (fun cluster =>
      (cluster.settleProbes ruling.policy ruling.results).value) := by
  simp only [after, Router.judge, Traced.value_map, Router.value_withCluster]

private theorem Regular.policy_eq (regular : ruling.Regular (.builtin source protector)) :
    ruling.policy = .consecutiveFailures :=
  List.mem_singleton.1 regular.listed

theorem healthOf_after (regular : ruling.Regular (.builtin source protector))
    (ref : ClusterRef) (record : Nat) :
    ruling.after.healthOf ref record =
      (ruling.outcome? ref record).elim (ruling.router.healthOf ref record)
        ((ruling.router.healthOf ref record).probed ruling.threshold) := by
  rw [value_after, Router.healthOf, Router.cluster?_mapCluster, outcome?,
    regular.policy_eq]
  by_cases here : ruling.cluster = ref
  · subst here
    rw [if_pos rfl, if_pos rfl, threshold]
    cases present : ruling.router.cluster? ruling.cluster with
    | none =>
        have none : ruling.results.lookup record = none := by
          refine List.lookup_eq_none_iff.2 fun result there => ?_
          have stored := regular.stored _ (List.mem_map_of_mem there)
          rw [Router.hasRecord, present] at stored
          cases stored
        rw [none, Router.healthOf, present]
        rfl
    | some cluster =>
        have stored : ∀ record ∈ ruling.results.map Prod.fst,
            record < cluster.records.length := by
          intro record listed
          have there := regular.stored record listed
          rw [Router.hasRecord, present] at there
          exact of_decide_eq_true there
        rw [Router.healthOf_of_cluster? present]
        exact cluster.healthOf_settled regular.distinct stored record
  · rw [if_neg (Ne.symm here), if_neg here]
    rfl

theorem threshold_inForce (regular : ruling.Regular (.builtin source protector))
    {ref : ClusterRef} {record : Nat} {outcome : ProbeOutcome}
    (given : ruling.outcome? ref record = some outcome) :
    ∃ cluster, ruling.router.cluster? ref = some cluster ∧
      cluster.model.config.ThresholdInForce ruling.threshold := by
  rcases Option.ite_none_right_eq_some.1 given with ⟨rfl, found⟩
  have listed : record ∈ ruling.results.map Prod.fst := by
    by_contra missing
    have none := List.lookup_eq_none_iff.2 fun result there =>
      bne_iff_ne.2 fun same : record = result.1 =>
        missing (same ▸ List.mem_map_of_mem there)
    rw [none] at found
    cases found
  have stored := regular.stored record listed
  rw [Router.hasRecord, Option.any_eq_true] at stored
  rcases stored with ⟨cluster, present, -⟩
  refine ⟨cluster, present, ?_⟩
  rw [threshold, present]
  exact cluster.model.config.thresholdInForce

theorem changes_iff (regular : ruling.Regular (.builtin source protector)) :
    ruling.changes = true ↔ ∃ record,
      (ruling.after.healthOf ruling.cluster record).active ≠
        (ruling.router.healthOf ruling.cluster record).active := by
  have health : ∀ record, ruling.after.healthOf ruling.cluster record =
      ((ruling.router.cluster? ruling.cluster).map (fun cluster =>
        (cluster.settleProbes .consecutiveFailures ruling.results).value.healthOf
          record)).getD {} := by
    intro record
    rw [value_after, Router.healthOf, Router.cluster?_mapCluster, if_pos rfl,
      Option.map_map, regular.policy_eq]
    rfl
  simp only [health]
  simp only [changes, Router.healthOf, regular.policy_eq]
  cases ruling.router.cluster? ruling.cluster with
  | none =>
      refine ⟨fun changed => absurd changed Bool.false_ne_true, ?_⟩
      rintro ⟨_, moved⟩
      exact absurd rfl moved
  | some cluster => exact cluster.changed_judgeProbes regular.distinct

/-- The results of a record in some batches, oldest first. -/
def outcomes (ref : ClusterRef) (record : Nat) (rulings : List Ruling) :
    List ProbeOutcome :=
  rulings.filterMap (fun ruling => ruling.outcome? ref record)

theorem outcomes_concat (ref : ClusterRef) (record : Nat) (rulings : List Ruling)
    (ruling : Ruling) :
    outcomes ref record (rulings ++ [ruling]) =
      outcomes ref record rulings ++ (ruling.outcome? ref record).toList := by
  rw [outcomes, List.filterMap_append, outcomes]
  cases given : ruling.outcome? ref record with
  | none => simp [given]
  | some outcome => simp [given]

end Ruling

namespace Router.Ruled

variable {source : RandomSource} {protector : Protector} {before after : Router}
  {rulings : List Ruling} {ruling : Ruling}

theorem last (ruled : Ruled before (rulings ++ [ruling]) after) :
    Ruled before rulings ruling.router ∧ SameProbing ruling.after after := by
  rcases ruled.cut with ⟨middle, first, last⟩
  cases last with
  | judged same rest =>
      cases rest with
      | calm later => exact ⟨first.calmly same, later⟩

theorem upto {more : List Ruling}
    (ruled : Ruled before (rulings ++ ruling :: more) after) :
    Ruled before (rulings ++ [ruling]) ruling.after := by
  rcases ruled.cut with ⟨_, first, last⟩
  cases last with
  | judged same _ => exact (first.calmly same).trans (.judged (.refl _) (.calm (.refl _)))

/-- The count of a record is the number of its failures in a row, up to the wrapping of a
word. -/
theorem counted (ruled : Ruled before rulings after)
    (regular : ∀ ruling ∈ rulings, ruling.Regular (.builtin source protector))
    {ref : ClusterRef} {record : Nat}
    (fresh : (before.healthOf ref record).probeFailures = 0) :
    (after.healthOf ref record).probeFailures.toNat =
      failuresInARow (Ruling.outcomes ref record rulings) % 2 ^ 32 := by
  induction rulings using List.reverseRecOn generalizing after with
  | nil =>
      cases ruled with
      | calm same =>
          rw [same.probeFailures]
          exact congrArg UInt32.toNat fresh
  | append_singleton earlier ruling induction =>
      rcases ruled.last with ⟨first, same⟩
      have before := induction first fun other member =>
        regular other (List.mem_append_left _ member)
      have own :=
        regular ruling (List.mem_append_right _ (List.mem_singleton_self ruling))
      rw [same.probeFailures, Ruling.outcomes_concat, ruling.healthOf_after own]
      cases ruling.outcome? ref record with
      | none =>
          rw [Option.toList_none, List.append_nil]
          exact before
      | some outcome =>
          rw [Option.toList_some, failuresInARow_concat]
          exact DestinationHealth.probeFailures_probed before ruling.threshold outcome

theorem judged_last (ruled : Ruled before (rulings ++ [ruling]) after)
    (regular : ∀ other ∈ rulings ++ [ruling], other.Regular (.builtin source protector))
    {ref : ClusterRef} {record : Nat}
    (fresh : (before.healthOf ref record).probeFailures = 0) {outcome : ProbeOutcome}
    (given : ruling.outcome? ref record = some outcome) :
    (ruling.after.healthOf ref record).active =
      ActivePolicy.verdict ruling.threshold (ActivePolicy.compared
        (failuresInARow (Ruling.outcomes ref record (rulings ++ [ruling])))) := by
  have counted := ruled.last.1.counted
    (fun other member => regular other (List.mem_append_left _ member)) fresh
  have own := regular ruling (List.mem_append_right _ (List.mem_singleton_self ruling))
  rw [ruling.healthOf_after own, Ruling.outcomes_concat, given, Option.toList_some,
    failuresInARow_concat]
  exact DestinationHealth.active_probed counted ruling.threshold outcome

theorem probing_of_excluded (ruled : Ruled before rulings after)
    (regular : ∀ ruling ∈ rulings, ruling.Regular (.builtin source protector))
    {ref : ClusterRef} {record : Nat}
    (excluded : ∀ ruling ∈ rulings, ruling.outcome? ref record = none) :
    (after.healthOf ref record).probing = (before.healthOf ref record).probing := by
  induction ruled with
  | calm same => exact same ref record
  | @judged _ _ ruling _ same _ induction =>
      have later := induction
        (fun other member => regular other (List.mem_cons_of_mem _ member))
        (fun other member => excluded other (List.mem_cons_of_mem _ member))
      have own := ruling.healthOf_after (regular ruling List.mem_cons_self) ref record
      rw [excluded ruling List.mem_cons_self, Option.elim_none] at own
      rw [later, own]
      exact same ref record

end Router.Ruled

namespace Scene

/-- In every run, each batch of probes that is judged has at most one result of a record,
and judges it by the length of its present row of failures: it is unhealthy if that
reaches the threshold in force when the batch is judged, and healthy otherwise. The batch
is reported as changed exactly if the axis of some record has moved. Nothing else changes
the axis or the count of a record: not a batch without a result of it, not what happens
between two batches, and no operation in which no batch with a result of it is judged. -/
theorem active_verdict_after (source : RandomSource) (protector : Protector)
    (background : Bool) (run : List Operation) :
    let start := fresh (.builtin source protector) background
    (∀ (earlier : List Ruling) (ruling : Ruling) (later : List Ruling),
      start.rulings run = earlier ++ ruling :: later →
      (ruling.results.map Prod.fst).Nodup ∧
      (∀ ref record outcome, ruling.outcome? ref record = some outcome →
        (∃ cluster, ruling.router.cluster? ref = some cluster ∧
          cluster.model.config.ThresholdInForce ruling.threshold) ∧
        (failuresInARow (Ruling.outcomes ref record (earlier ++ [ruling])) < 2 ^ 32 →
          (ruling.after.healthOf ref record).active =
            if ruling.threshold ≤
                failuresInARow (Ruling.outcomes ref record (earlier ++ [ruling])) then
              .unhealthy
            else .healthy)) ∧
      (ruling.changes = true ↔ ∃ record,
        (ruling.after.healthOf ruling.cluster record).active ≠
          (ruling.router.healthOf ruling.cluster record).active) ∧
      ∀ ref record, ruling.outcome? ref record = none →
        (ruling.after.healthOf ref record).probing =
          (ruling.router.healthOf ref record).probing) ∧
    Router.Ruled start.router (start.rulings run) (start.after run).router ∧
    ∀ operation ref record,
      (∀ ruling ∈ (start.after run).rulingsOf operation,
        ruling.outcome? ref record = none) →
        (((start.after run).perform operation).value.router.healthOf ref record).probing =
          ((start.after run).router.healthOf ref record).probing := by
  intro start
  have ruled : Router.Ruled start.router (start.rulings run) (start.after run).router :=
    ruled_after source protector background run
  have regular := regular_rulings source protector background run
  refine ⟨fun earlier ruling later parts => ?_, ruled,
    fun operation ref record excluded => ?_⟩
  · have all : start.rulings run = (earlier ++ [ruling]) ++ later := by
      rw [parts, List.append_assoc]
      rfl
    rw [all] at regular ruled
    have own := regular ruling (List.mem_append_left _ List.mem_concat_self)
    refine ⟨own.distinct, fun ref record outcome given =>
      ⟨ruling.threshold_inForce own given, fun few => ?_⟩, ruling.changes_iff own,
      fun ref record excluded => ?_⟩
    · rcases ruled.cut with ⟨middle, first, -⟩
      have judged := first.judged_last
        (fun other member => regular other (List.mem_append_left _ member)) rfl given
      rw [judged, ActivePolicy.compared_of_lt few]
      rfl
    · rw [ruling.healthOf_after own, excluded]
      rfl
  · have awaits := awaits_after source protector background run
    have path := ruled_perform awaits.sound.known.regular operation
    exact path.probing_of_excluded (regular_rulingsOf awaits operation) excluded

def ailing : List Operation :=
  [.answer "a" [{ outcome := some (.answered 503) }], .configure probedConfig]

/-- A cluster whose destinations may fail twice. -/
def patientConfig : ClusterConfig :=
  { probedConfig with
    metadata := .ofList [("ConsecutiveFailuresHealthPolicy.Threshold", "+3")] }

def patientRun : List Operation :=
  [.check sampleRef, .check sampleRef, .check sampleRef,
    .answer "a" [{ outcome := some (.answered 503) }], .configure patientConfig]

/-- The third failure makes the one unhealthy, while the other one is healthy. -/
theorem active_verdict_after_failures :
    ∃ first second third : Ruling, sample.rulings patientRun = [first, second, third] ∧
      (second.after.healthOf sampleRef 0).active = .healthy ∧
      (third.after.healthOf sampleRef 0).active = .unhealthy ∧
      (third.after.healthOf sampleRef 1).active = .healthy := by
  have results : (sample.rulings patientRun).map (fun ruling =>
      (ruling.threshold, ruling.outcome? sampleRef 0, ruling.outcome? sampleRef 1)) =
        List.replicate 3 (3, some (.answered 503), some (.answered 200)) := by
    decide +kernel
  rcases active_verdict_after _ _ true patientRun with ⟨verdicts, -⟩
  rcases List.map_eq_cons_iff.1 results with ⟨first, rest, rulings, early, results⟩
  rcases List.map_eq_cons_iff.1 results with ⟨second, rest, rfl, middle, results⟩
  rcases List.map_eq_cons_iff.1 results with ⟨third, rest, rfl, late, results⟩
  rw [List.map_eq_nil_iff.1 results] at rulings
  rcases verdicts [first] second [third] rulings with ⟨-, judged, -⟩
  rcases verdicts [first, second] third [] rulings with ⟨-, alsoJudged, -⟩
  simp only [Prod.mk.injEq] at early middle late
  have failures : Ruling.outcomes sampleRef 0 [first, second, third] =
      List.replicate 3 (.answered 503) := by
    simp [Ruling.outcomes, early, middle, late]
  have two :
      Ruling.outcomes sampleRef 0 [first, second] = List.replicate 2 (.answered 503) := by
    simp [Ruling.outcomes, early, middle]
  have successes : Ruling.outcomes sampleRef 1 [first, second, third] =
      List.replicate 3 (.answered 200) := by
    simp [Ruling.outcomes, early, middle, late]
  refine ⟨first, second, third, rulings, ?_, ?_, ?_⟩
  · rw [(judged sampleRef 0 _ middle.2.1).2 (two ▸ by decide), middle.1]
    exact if_neg (two ▸ by decide)
  · rw [(alsoJudged sampleRef 0 _ late.2.1).2 (failures ▸ by decide), late.1]
    exact if_pos (failures ▸ by decide)
  · rw [(alsoJudged sampleRef 1 _ late.2.2).2 (successes ▸ by decide), late.1]
    exact if_neg (successes ▸ by decide)

end Scene

end Gateway
