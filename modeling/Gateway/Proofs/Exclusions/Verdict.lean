import Gateway.Proofs.Exclusions.Timers
import Gateway.Proofs.Health.FailureWindow
import Gateway.Proofs.Router.Reporting

namespace Gateway

/-! What failures do to a record that is excluded already. Each is sampled and judged
like any other, and samples are forgotten over it; so one that comes late may be the
only sample left, and end the exclusion. -/

theorem PassivePolicy.RateSettings.verdict_eq_unhealthy_iff (settings : RateSettings)
    (samples : FailureWindow) :
    settings.verdict samples = .unhealthy ↔
      settings.minimalTotal ≤ samples.total ∧ settings.rateLimit <
        samples.failureRate := by
  unfold verdict
  split
  · rename_i excluded
    simpa using excluded
  · rename_i tolerated
    simpa using tolerated

namespace Cluster

variable {cluster : Cluster} {now record : Nat} {outcome : Outcome}

/-- The samples of a record that the next one leaves in its window. -/
def keptOf (cluster : Cluster) (now record : Nat) : List Bucket :=
  (cluster.healthOf record).window.kept (now * 1000000)
    ((PassivePolicy.settingsOf cluster.model.config).window * 1000000)

/-- Whether the samples that are left, with one more failure, are enough to exclude a
record, and fail too often. -/
structure Condemns (cluster : Cluster) (now record : Nat) : Prop where
  enough : (PassivePolicy.settingsOf cluster.model.config).minimalTotal ≤
    Bucket.sum Bucket.total (cluster.keptOf now record) + 1
  often : (PassivePolicy.settingsOf cluster.model.config).rateLimit <
    Float.ofNat (Bucket.sum Bucket.failures (cluster.keptOf now record) + 1) /
      Float.ofNat (Bucket.sum Bucket.total (cluster.keptOf now record) + 1)

private theorem condemns_iff (accurate : (cluster.healthOf record).window.Accurate) :
    cluster.Condemns now record ↔
      (PassivePolicy.settingsOf cluster.model.config).verdict
        ((cluster.healthOf record).window.add now true
          (PassivePolicy.settingsOf cluster.model.config).window) = .unhealthy := by
  have total := accurate.total_record (now * 1000000) true
    ((PassivePolicy.settingsOf cluster.model.config).window * 1000000)
  have failures := accurate.failures_record (now * 1000000) true
    ((PassivePolicy.settingsOf cluster.model.config).window * 1000000)
  rw [PassivePolicy.RateSettings.verdict_eq_unhealthy_iff, FailureWindow.failureRate,
    FailureWindow.add, total, failures, if_neg (Nat.succ_ne_zero _)]
  exact ⟨fun condemned => ⟨condemned.enough, condemned.often⟩,
    fun condemned => ⟨condemned.1, condemned.2⟩⟩

theorem passive_observe_failure
    (heard : cluster.model.passive = some .transportFailureRate)
    (excluded : (cluster.healthOf record).passive = .unhealthy)
    (accurate : (cluster.healthOf record).window.Accurate)
    (failed : outcome = .backendError ∨ outcome = .timeout) :
    ((cluster.observe now record outcome).value.1.healthOf record).passive = .unhealthy ↔
      cluster.Condemns now record := by
  rcases getElem?_of_unhealthy excluded with ⟨destination, stored, same⟩
  have before : ∀ after : PassiveHealth,
      ¬ (destination.health.passive = .healthy ∧ after = .unhealthy) := by
    intro after began
    rw [same, excluded] at began
    cases began.1
  rw [healthOf_observe heard stored, if_pos rfl,
    DestinationHealth.judged_of_not_began (before _), condemns_iff accurate, ← same]
  rcases failed with rfl | rfl <;> rfl

theorem observe_heard (cluster : Cluster) (now record : Nat) (outcome : Outcome) :
    (cluster.observe now record outcome).value.1 = cluster ∨
      ∃ policy destination, cluster.model.passive = some policy ∧
        cluster.records[record]? = some destination := by
  have result := observe_result cluster now record outcome
  generalize (cluster.observe now record outcome).value = observed at result ⊢
  cases result with
  | unheard => exact .inl rfl
  | unmoved heard stored => exact .inr ⟨_, _, heard, stored⟩
  | recovered heard stored => exact .inr ⟨_, _, heard, stored⟩
  | excluded heard stored => exact .inr ⟨_, _, heard, stored⟩

private theorem healthOf_observe_of_silent (nobody : cluster.model.passive = none)
    (number : Nat) :
    (cluster.observe now record outcome).value.1.healthOf number =
      cluster.healthOf number := by
  rcases observe_heard cluster now record outcome with
    same | ⟨policy, destination, heard, -⟩
  · rw [same]
  · rw [nobody] at heard
    cases heard

private theorem healthOf_observe_of_ne {number : Nat} (different : number ≠ record) :
    (cluster.observe now record outcome).value.1.healthOf number =
      cluster.healthOf number := by
  rcases observe_heard cluster now record outcome with
    same | ⟨policy, destination, heard, stored⟩
  · rw [same]
  · rw [healthOf_observe heard stored, if_neg different]

section Builtin

variable (regular : cluster.Regular)

include regular

theorem healthOf_observe_canceled (number : Nat) :
    (cluster.observe now record .canceled).value.1.healthOf number =
      cluster.healthOf number := by
  rcases observe_heard cluster now record .canceled with
    same | ⟨policy, destination, heard, stored⟩
  · rw [same]
  · rcases regular.eq heard with rfl
    rw [healthOf_observe heard stored]
    split
    · rename_i here
      rw [here, healthOf_of_getElem? stored]
      apply DestinationHealth.judged_of_not_began
      rintro ⟨healthy, unhealthy⟩
      have same : destination.health.passive = .unhealthy := unhealthy
      rw [healthy] at same
      cases same
    · rfl

private theorem accurate_observe (number : Nat)
    (accurate : (cluster.healthOf number).window.Accurate) :
    ((cluster.observe now record outcome).value.1.healthOf number).window.Accurate := by
  rcases observe_heard cluster now record outcome with
    same | ⟨policy, destination, heard, stored⟩
  · rw [same]
    exact accurate
  · rcases regular.eq heard with rfl
    rw [healthOf_observe heard stored]
    split
    · rename_i here
      rw [here, healthOf_of_getElem? stored] at accurate
      have window : ∀ before after : DestinationHealth,
          (before.judged after).window = after.window := by
        intro before after
        unfold DestinationHealth.judged
        split <;> rfl
      rw [window]
      cases outcome with
      | canceled => exact accurate
      | success => exact accurate.record _ _ _
      | backendError => exact accurate.record _ _ _
      | timeout => exact accurate.record _ _ _
    · exact accurate

end Builtin

end Cluster

namespace Router

variable {policies : Policies} {router next : Router}

def AccurateWindows (router : Router) : Prop :=
  ∀ ref record, (router.healthOf ref record).window.Accurate

private theorem accurateWindows_fresh (policies : Policies) (background : Bool) :
    AccurateWindows { policies, background } :=
  fun _ _ => FailureWindow.accurate_empty

theorem AccurateWindows.moves (accurate : router.AccurateWindows)
    (builtin : policies.active.entries = ActivePolicy.builtin)
    (moves : Moves policies router next) : next.AccurateWindows := by
  intro ref record
  rcases moves.lapse builtin ref record with still | ended
  · rw [still.window]
    exact accurate ref record
  · rw [ended.window]
    exact FailureWindow.accurate_empty

theorem AccurateWindows.observe (accurate : router.AccurateWindows)
    (regular : router.Regular) (ref : ClusterRef) (record : Nat) (outcome : Outcome) :
    AccurateWindows (router.observe ref record outcome).value := by
  intro other number
  cases present : router.cluster? ref with
  | none =>
      rw [observe_of_absent present]
      exact accurate other number
  | some cluster =>
      rw [healthOf_observe present]
      split
      · rename_i here
        have before := accurate other number
        rw [here, healthOf_of_cluster? present] at before
        exact Cluster.accurate_observe (regular ref cluster present) number before
      · exact accurate other number

theorem healthOf_observe_elsewhere (router : Router) {ref other : ClusterRef}
    {record number : Nat} (elsewhere : ¬ (other = ref ∧ number = record))
    (outcome : Outcome) :
    (router.observe ref record outcome).value.healthOf other number =
      router.healthOf other number := by
  cases present : router.cluster? ref with
  | none => rw [observe_of_absent present]
  | some cluster =>
      rw [healthOf_observe present]
      split
      · rename_i here
        rw [here, healthOf_of_cluster? present]
        exact Cluster.healthOf_observe_of_ne fun same => elsewhere ⟨here, same⟩
      · rfl

end Router

namespace Scene

private theorem accurateWindows_after (source : RandomSource) (protector : Protector)
    (background : Bool) (run : List Operation) :
    ((fresh (.builtin source protector) background).after
      run).router.AccurateWindows := by
  have choosing := Policies.choosing_builtin source protector
  induction run with
  | nil => exact Router.accurateWindows_fresh _ background
  | cons operation earlier induction =>
      have known := known_after choosing background earlier
      intro ref record
      cases reported :
          ((fresh (.builtin source protector) background).after earlier).router.reported?
            operation with
      | none =>
          rcases moves_of_not_reported known choosing reported with ⟨middle, moves, same⟩
          rw [after, same.health]
          exact induction.moves rfl moves ref record
      | some report =>
          rcases report with ⟨lease, outcome⟩
          rw [after, (sameHealth_reported reported).health]
          exact induction.observe known.regular lease.cluster lease.record outcome
            ref record

section Endings

variable {source : RandomSource} {protector : Protector} {scene : Scene}
  {operation : Operation} {ref : ClusterRef} {record : Nat}

private theorem healthOf_reported {cluster : Cluster}
    (present : scene.router.cluster? ref = some cluster)
    {outcome : Outcome}
    (reported : scene.router.reported? operation =
      some ({ cluster := ref, record }, outcome)) :
    (scene.perform operation).value.router.healthOf ref record =
      (cluster.observe scene.router.now record outcome).value.1.healthOf record := by
  rw [(sameHealth_reported reported).health, Router.healthOf_observe present, if_pos rfl]

variable (known : Router.Known (.builtin source protector) scene.router)
  (excluded : (scene.router.healthOf ref record).passive = .unhealthy)

include known excluded

theorem passive_reported_failure (accurate : scene.router.AccurateWindows)
    {cluster : Cluster} (present : scene.router.cluster? ref = some cluster)
    (listening : cluster.model.passive ≠ none) {outcome : Outcome}
    (failed : outcome = .backendError ∨ outcome = .timeout)
    (reported : scene.router.reported? operation =
      some ({ cluster := ref, record }, outcome)) :
    ((scene.perform operation).value.router.healthOf ref record).passive = .unhealthy ↔
      cluster.Condemns scene.router.now record := by
  have here := Router.healthOf_of_cluster? present record
  have window := accurate ref record
  rw [here] at excluded window
  rcases Option.ne_none_iff_exists'.1 listening with ⟨policy, active⟩
  rcases (known.regular ref cluster present).eq active with rfl
  rw [healthOf_reported present reported]
  exact Cluster.passive_observe_failure active excluded window failed

variable
  (healthy : ((scene.perform operation).value.router.healthOf ref record).passive =
    .healthy)

include healthy

theorem timer_of_ending (silent : scene.router.reported? operation = none) :
    ∃ alarm ∈ scene.router.timers ref record,
      alarm.due ≤ (scene.perform operation).value.router.now := by
  rcases moves_of_not_reported known (Policies.choosing_builtin source protector)
    silent with
    ⟨middle, moves, same⟩
  rw [same.health] at healthy
  rcases moves.lapse rfl ref record with still | ended
  · rw [still.passive, excluded] at healthy
    cases healthy
  · rw [same.now]
    exact ended.due

/-- A report that ends an exclusion is one of a success on the record, or of a failure
that leaves too few samples that fail. -/
theorem report_of_ending (accurate : scene.router.AccurateWindows) {cluster : Cluster}
    (present : scene.router.cluster? ref = some cluster) {lease : Lease}
    {outcome : Outcome}
    (reported : scene.router.reported? operation = some (lease, outcome)) :
    lease = { cluster := ref, record } ∧
      (outcome = .success ∨
        (outcome = .backendError ∨ outcome = .timeout) ∧
          ¬ cluster.Condemns scene.router.now record) := by
  -- Whatever leaves the record as it is does not end its exclusion.
  have moved : (scene.perform operation).value.router.healthOf ref record ≠
      scene.router.healthOf ref record := by
    intro same
    rw [same, excluded] at healthy
    cases healthy
  by_cases elsewhere : ¬ (ref = lease.cluster ∧ record = lease.record)
  · refine absurd ?_ moved
    rw [(sameHealth_reported reported).health]
    exact Router.healthOf_observe_elsewhere scene.router elsewhere outcome
  · rcases Classical.not_not.1 elsewhere with ⟨rfl, rfl⟩
    refine ⟨rfl, ?_⟩
    rw [healthOf_reported present reported, Router.healthOf_of_cluster? present] at moved
    have listening : cluster.model.passive ≠ none := fun nobody =>
      moved (Cluster.healthOf_observe_of_silent nobody lease.record)
    have spared : outcome = .backendError ∨ outcome = .timeout →
        ¬ cluster.Condemns scene.router.now lease.record := by
      intro failed condemned
      have still :=
        (passive_reported_failure known excluded accurate present listening failed
        reported).2 condemned
      rw [still] at healthy
      cases healthy
    cases outcome with
    | success => exact .inl rfl
    | backendError => exact .inr ⟨.inl rfl, spared (.inl rfl)⟩
    | timeout => exact .inr ⟨.inr rfl, spared (.inr rfl)⟩
    | canceled =>
        have regular := known.regular lease.cluster cluster present
        exact absurd (Cluster.healthOf_observe_canceled regular lease.record) moved

end Endings

/-- How an exclusion can end. A failure keeps it exactly where the samples that the
failure leaves in the window, and the failure itself, would exclude the record again.
Otherwise only a request that went well and the timer of the exclusion end it. -/
theorem exclusion_endings_after (source : RandomSource) (protector : Protector)
    (background : Bool) (run : List Operation) (ref : ClusterRef) (record : Nat)
    (excluded :
      (Router.healthOf ((fresh (.builtin source protector) background).after run).router
      ref record).passive = .unhealthy) :
    let scene := (fresh (.builtin source protector) background).after run
    let next := fun operation => (scene.perform operation).value.router
    let reports := fun operation outcome =>
      scene.router.reported? operation = some ({ cluster := ref, record }, outcome)
    let log := (fresh (.builtin source protector) background).exclusionLog run ref record
    ∃ cluster, scene.router.cluster? ref = some cluster ∧
      (∀ operation outcome, reports operation outcome → cluster.model.passive ≠ none →
        outcome = .backendError ∨ outcome = .timeout →
          (((next operation).healthOf ref record).passive = .unhealthy ↔
            cluster.Condemns scene.router.now record)) ∧
      ∀ operation, ((next operation).healthOf ref record).passive = .healthy →
        (∃ alarm ∈ scene.router.timers ref record, alarm.due ≤ (next operation).now ∧
          (background = true → scene.router.isShutDown ref = false → log.length < 2 ^ 64 →
            ∃ start, log.head? = some start ∧ alarm.due = start.since + start.period)) ∨
        reports operation .success ∨
        ∃ outcome,
          reports operation outcome ∧ (outcome = .backendError ∨ outcome = .timeout) ∧
          ¬ cluster.Condemns scene.router.now record := by
  intro scene next reports log
  have known : Router.Known (.builtin source protector) scene.router :=
    known_after (Policies.choosing_builtin source protector) background run
  have accurate : scene.router.AccurateWindows :=
    accurateWindows_after source protector background run
  rcases Router.cluster?_of_unhealthy excluded with ⟨cluster, present⟩
  refine ⟨cluster, present, fun operation outcome reported listening failed => ?_,
    fun operation healthy => ?_⟩
  · exact passive_reported_failure known excluded accurate present listening failed
      reported
  · cases reported : scene.router.reported? operation with
    | none =>
        rcases timer_of_ending known excluded healthy reported with ⟨alarm, timer, due⟩
        refine .inl ⟨alarm, timer, due, fun enabled working few => ?_⟩
        subst enabled
        rcases (timed_after source protector run).timed ref record working excluded with
          ⟨start, other, set⟩
        have listed : alarm ∈ [other] := set.only few ▸ timer
        rw [List.mem_singleton.1 listed]
        exact ⟨start, set.latest, set.due⟩
    | some report =>
        rcases report with ⟨lease, outcome⟩
        rcases report_of_ending known excluded healthy accurate present reported with
          ⟨rfl, rfl | ⟨failed, spared⟩⟩
        · exact .inr (.inl reported)
        · exact .inr (.inr ⟨outcome, reported, failed, spared⟩)

/-- A small gateway that forgets samples after a second, and needs ten of them. -/
def forgetfulConfig : ClusterConfig :=
  { sampleConfig with metadata := .ofList [(PassivePolicy.windowKey, "1000")] }

/-- A request is under way when ten others fail, and for five seconds after that. -/
def slowRun : List Operation :=
  .elapse 5000 ::
    (List.replicate 10 (.report sampleRef 0 .backendError) ++
      [.acquire sampleRef 0, .configure forgetfulConfig])

/-- That it then fails too ends the exclusion of its destination. -/
theorem exclusion_endings_after_slow_failure :
    ((sample.after slowRun).router.healthOf sampleRef 0).passive = .unhealthy ∧
      (sample.after slowRun).router.reported? (.complete 0 .timeout) =
        some ({ cluster := sampleRef, record := 0 }, .timeout) ∧
      (((sample.after slowRun).perform (.complete 0 .timeout)).value.router.healthOf
        sampleRef 0).passive = .healthy := by
  have excluded :
      ((sample.after slowRun).router.healthOf sampleRef 0).passive = .unhealthy := by
    decide +kernel
  have reported : (sample.after slowRun).router.reported? (.complete 0 .timeout) =
      some ({ cluster := sampleRef, record := 0 }, .timeout) := by
    decide +kernel
  have counts : ((sample.after slowRun).router.cluster? sampleRef).map (fun cluster =>
      (cluster.model.passive.isSome,
        (PassivePolicy.settingsOf cluster.model.config).minimalTotal,
        Bucket.sum Bucket.total (cluster.keptOf (sample.after slowRun).router.now 0))) =
      some (true, 10, 0) := by
    decide +kernel
  rcases exclusion_endings_after _ _ true slowRun sampleRef 0 excluded with
    ⟨cluster, present, failures, -⟩
  rcases Option.map_eq_some_iff.1 counts with ⟨other, alsoPresent, same⟩
  obtain rfl : other = cluster := Option.some.inj (alsoPresent.symm.trans present)
  have listening : other.model.passive.isSome = true := congrArg Prod.fst same
  have minimal : (PassivePolicy.settingsOf other.model.config).minimalTotal = 10 :=
    congrArg (fun counts => counts.2.1) same
  have total :
      Bucket.sum Bucket.total (other.keptOf (sample.after slowRun).router.now 0) = 0 :=
    congrArg (fun counts => counts.2.2) same
  have spared : ¬ other.Condemns (sample.after slowRun).router.now 0 := by
    intro condemned
    have enough := condemned.enough
    rw [minimal, total] at enough
    omega
  have verdict := failures (.complete 0 .timeout) .timeout reported
    (Option.isSome_iff_ne_none.1 listening) (.inr rfl)
  refine ⟨excluded, reported, ?_⟩
  cases passive :
    (((sample.after slowRun).perform (.complete 0 .timeout)).value.router.healthOf
      sampleRef 0).passive with
  | healthy => rfl
  | unhealthy => exact absurd (verdict.1 passive) spared

end Scene

end Gateway
