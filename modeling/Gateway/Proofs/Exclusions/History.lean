import Gateway.Proofs.Exclusions.Passage
import Gateway.Proofs.Exclusions.Verdict
import Gateway.Proofs.Health.Tally
import Gateway.Proofs.Metadata

namespace Gateway

/-! The passive health of a record, told by the whole history of the reports on it. -/

/-- Whether an outcome counts as a failure, if it counts at all. -/
def Outcome.failed? : Outcome → Option Bool
  | .canceled => none
  | .success => some false
  | .backendError | .timeout => some true

namespace PassivePolicy

/-- The settings that are in force for the failure rate policy: what the metadata of the
cluster give, with defaults of a minute, 10 samples, and the number nearest to 0.3. -/
structure InForce (config : ClusterConfig) (settings : RateSettings) : Prop where
  window : config.Setting "TransportFailureRateHealthPolicy.DetectionWindowSize"
    (fun text value => Decimal.Numeral text.toList value ∧ value < 2 ^ 64) 60000
    settings.window
  minimalTotal : config.Setting
    "TransportFailureRateHealthPolicy.MinimalTotalCountThreshold"
    (fun text value => Decimal.Numeral text.toList value ∧ value < 2 ^ 64) 10
    settings.minimalTotal
  rateLimit : ∃ bits, settings.rateLimit = Float.ofBits bits ∧
    config.Setting "TransportFailureRateHealthPolicy.RateLimit"
      (fun text value => Decimal.Spelling text.toList value) 0x3fd3333333333333 bits

def RateSettings.ofMetadata (config : ClusterConfig) : RateSettings where
  window := config.metadataOr windowKey Metadata.read64? defaultWindow
  minimalTotal := config.metadataOr minimalTotalKey Metadata.read64? defaultMinimalTotal
  rateLimit :=
    Float.ofBits (config.metadataOr rateLimitKey Metadata.readBits? defaultRateLimit)

private theorem inForce_ofMetadata (config : ClusterConfig) :
    InForce config (.ofMetadata config) where
  window := (ClusterConfig.setting_iff Metadata.read64?_eq_some).2 rfl
  minimalTotal := (ClusterConfig.setting_iff Metadata.read64?_eq_some).2 rfl
  rateLimit := ⟨_, rfl, (ClusterConfig.setting_iff Metadata.readBits?_eq_some).2 rfl⟩

private theorem settingsOf_eq_ofMetadata (config : ClusterConfig) :
    settingsOf config = .ofMetadata config := by
  simp only [settingsOf, readSettings, Traced.value_bind, Traced.value_pure,
    ClusterConfig.value_metadataValue, RateSettings.ofMetadata]

end PassivePolicy

namespace Sample

/-- Whether samples are enough to exclude a record under some settings, and fail too
often. -/
def Condemn (settings : PassivePolicy.RateSettings) (samples : List Sample) : Prop :=
  settings.minimalTotal ≤ samples.length ∧
    settings.rateLimit < Float.ofNat (samples.countP failed) / Float.ofNat samples.length

instance (settings : PassivePolicy.RateSettings) (samples : List Sample) :
    Decidable (Condemn settings samples) :=
  inferInstanceAs (Decidable (_ ∧ _))

private theorem retained_concat_ne_nil (samples : List Sample) (sample : Sample) :
    retained (samples ++ [sample]) ≠ [] := by
  rw [retained, unforgotten_concat]
  exact List.concat_ne_nil _ _

end Sample

private theorem FailureWindow.Tally.verdict_iff {window : FailureWindow}
    {samples : List Sample} (tally : window.Tally samples)
    (some : Sample.retained samples ≠ []) (settings : PassivePolicy.RateSettings) :
    settings.verdict window = .unhealthy ↔
      Sample.Condemn settings (Sample.retained samples) := by
  have positive : window.total ≠ 0 := by
    rw [tally.total]
    exact fun zero => some (List.length_eq_zero_iff.1 zero)
  rw [PassivePolicy.RateSettings.verdict_eq_unhealthy_iff, FailureWindow.failureRate,
    if_neg positive, tally.total, tally.failures]
  rfl

namespace Cluster

variable {cluster : Cluster} {now record : Nat} {outcome : Outcome}

private theorem setHealth_self {destination : Destination}
    (stored : cluster.records[record]? = some destination) :
    cluster.setHealth record destination.health = cluster := by
  have same :
      cluster.records.modify record (fun other => other.withHealth destination.health) =
        cluster.records := by
    apply List.ext_getElem?
    intro number
    by_cases here : record = number
    · subst here
      simp [stored, Destination.withHealth]
    · simp [here]
  rw [setHealth, modifyRecord, same]

theorem value_observe_canceled (regular : cluster.Regular) (now record : Nat) :
    (cluster.observe now record .canceled).value = (cluster, none) := by
  have result := observe_result cluster now record .canceled
  generalize (cluster.observe now record .canceled).value = observed at result ⊢
  have canceled :
      ∀ {policy : PassivePolicy} {destination : Destination} {health : DestinationHealth},
      cluster.model.passive = some policy →
      (policy.observe cluster.model.config now destination .canceled).value = health →
      health = destination.health := by
    intro policy destination health heard judged
    rcases regular.eq heard with rfl
    exact judged.symm
  cases result with
  | unheard => rfl
  | unmoved heard stored judged =>
      rw [canceled heard judged, setHealth_self stored]
  | recovered heard stored judged before healthy =>
      rw [canceled heard judged, before] at healthy
      cases healthy
  | excluded heard stored judged before unhealthy =>
      rw [canceled heard judged, before] at unhealthy
      cases unhealthy

theorem healthOf_observe_sampled (regular : cluster.Regular) (now : Nat)
    {policy : PassivePolicy} (heard : cluster.model.passive = some policy)
    {destination : Destination} (stored : cluster.records[record]? = some destination)
    {failed : Bool} (counted : outcome.failed? = some failed) :
    let settings := PassivePolicy.RateSettings.ofMetadata cluster.model.config
    let after := (cluster.observe now record outcome).value.1.healthOf record
    after.window = (cluster.healthOf record).window.add now failed settings.window ∧
      after.passive = settings.verdict after.window := by
  intro settings after
  rcases regular.eq heard with rfl
  have judged : after = destination.health.judged _ :=
    (healthOf_observe heard stored now outcome record).trans (if_pos rfl)
  have sampled :
      (PassivePolicy.transportFailureRate.observe cluster.model.config now destination
      outcome).value =
        { destination.health with
          window := destination.health.window.add now failed settings.window
          passive :=
            settings.verdict
              (destination.health.window.add now failed settings.window) } := by
    have same := PassivePolicy.settingsOf_eq_ofMetadata cluster.model.config
    have read : (PassivePolicy.readSettings cluster.model.config).value = settings := same
    cases outcome with
    | canceled => cases counted
    | success =>
        cases counted
        simp only [PassivePolicy.transportFailureRate, PassivePolicy.sample,
          Traced.value_bind, Traced.value_pure, read]
    | backendError =>
        cases counted
        simp only [PassivePolicy.transportFailureRate, PassivePolicy.sample,
          Traced.value_bind, Traced.value_pure, read]
    | timeout =>
        cases counted
        simp only [PassivePolicy.transportFailureRate, PassivePolicy.sample,
          Traced.value_bind, Traced.value_pure, read]
  have window : ∀ before after : DestinationHealth,
      (before.judged after).window = after.window ∧
      (before.judged after).passive = after.passive := by
    intro before after
    unfold DestinationHealth.judged
    split <;> exact ⟨rfl, rfl⟩
  rw [judged, healthOf_of_getElem? stored, (window _ _).1, (window _ _).2, sampled]
  exact ⟨rfl, rfl⟩

end Cluster

namespace Router

variable {policies : Policies} {router : Router}

theorem value_observe_canceled (regular : router.Regular) (ref : ClusterRef)
    (record : Nat) :
    (router.observe ref record .canceled).value = router := by
  have heard := heard_observe router ref record .canceled
  generalize (router.observe ref record .canceled).value = next at heard ⊢
  cases heard with
  | absent => rfl
  | settled present =>
      rw [Cluster.value_observe_canceled (regular ref _ present)]
      exact setCluster_self present
  | timed present began =>
      rw [Cluster.value_observe_canceled (regular ref _ present)] at began
      cases began
  | untimed present began =>
      rw [Cluster.value_observe_canceled (regular ref _ present)] at began
      cases began

/-- What a report on a record adds to its samples: nothing, if the request was canceled,
if the record or its cluster is missing, or if no passive policy is in force. -/
def sample? (router : Router) (lease : Lease) (outcome : Outcome) : Option Sample := do
  let cluster ← router.cluster? lease.cluster
  let _ ← cluster.model.passive
  let _ ← cluster.records[lease.record]?
  let failed ← outcome.failed?
  some { now := router.now, failed, settings := .ofMetadata cluster.model.config }

private theorem sample?_eq_some_iff {lease : Lease} {outcome : Outcome}
    {sample : Sample} :
    router.sample? lease outcome = some sample ↔
      ∃ cluster policy destination failed, router.cluster? lease.cluster = some cluster ∧
        cluster.model.passive = some policy ∧
        cluster.records[lease.record]? = some destination ∧
          outcome.failed? = some failed ∧
            sample =
              { now := router.now, failed,
                settings := .ofMetadata cluster.model.config } := by
  simp only [sample?, Option.bind_eq_bind, Option.bind_eq_some_iff, Option.some.injEq]
  constructor
  · rintro ⟨cluster, present, policy, heard, destination, stored, failed, counted, rfl⟩
    exact ⟨cluster, policy, destination, failed, present, heard, stored, counted, rfl⟩
  · rintro ⟨cluster, policy, destination, failed, present, heard, stored, counted, rfl⟩
    exact ⟨cluster, present, policy, heard, destination, stored, failed, counted, rfl⟩

theorem sameRecords_observe_unsampled (regular : router.Regular) {lease : Lease}
    {outcome : Outcome} (unsampled : router.sample? lease outcome = none) :
    SameRecords router (router.observe lease.cluster lease.record outcome).value := by
  have missing : ∀ {cluster policy destination failed},
      router.cluster? lease.cluster = some cluster → cluster.model.passive = some policy →
      cluster.records[lease.record]? = some destination →
        outcome.failed? ≠ some failed := by
    intro cluster policy destination failed present heard stored counted
    rw [sample?_eq_some_iff.2 ⟨cluster, policy, destination, failed, present, heard,
      stored, counted, rfl⟩] at unsampled
    cases unsampled
  cases present : router.cluster? lease.cluster with
  | none =>
      rw [observe_of_absent present]
      exact .refl router
  | some cluster =>
      intro ref number
      rw [healthOf_observe present]
      split
      · rename_i here
        rw [here, healthOf_of_cluster? present]
        rcases Cluster.observe_heard cluster router.now lease.record outcome with
          same | ⟨policy, destination, heard, stored⟩
        · rw [same]
        · cases outcome with
          | canceled =>
              exact Cluster.healthOf_observe_canceled (regular _ _ present) number
          | success => exact absurd rfl (missing present heard stored)
          | backendError => exact absurd rfl (missing present heard stored)
          | timeout => exact absurd rfl (missing present heard stored)
      · rfl

end Router

namespace Scene

variable {policies : Policies} {scene start : Scene} {operation : Operation}
  {ref : ClusterRef} {record : Nat}

/-- What an operation adds to the samples of a record. -/
def sampled? (scene : Scene) (operation : Operation) (ref : ClusterRef) (record : Nat) :
    Option Sample :=
  (scene.router.reported? operation).bind (fun report =>
    if report.1 = { cluster := ref, record } then scene.router.sample? report.1 report.2
    else none)

/-- Whether the timer of its present exclusion rings for a record. -/
def restored (scene : Scene) (operation : Operation) (ref : ClusterRef)
    (record : Nat) : Bool :=
  (scene.workOf operation).any (fun work => work.restores ref record)

/-- The samples of a record in a run, oldest first: those since it was created, or since
its timer last made it healthy. -/
def samples (start : Scene) (ref : ClusterRef) (record : Nat) :
    List Operation → List Sample
  | [] => []
  | operation :: earlier =>
      let scene := start.after earlier
      if scene.restored operation ref record then []
      else start.samples ref record earlier ++
        (scene.sampled? operation ref record).toList

private theorem now_perform (known : Router.Known policies scene.router)
    (choosing : policies.Choosing) (operation : Operation) :
    scene.router.now ≤ (scene.perform operation).value.router.now := by
  cases reported : scene.router.reported? operation with
  | none =>
      rcases moves_of_not_reported known choosing reported with ⟨middle, moves, same⟩
      rw [same.now]
      exact moves.frame.order
  | some report =>
      rw [(sameHealth_reported reported).now]
      exact (Router.frame_observe _ _ _ _).order

private theorem workOf_of_reported {report : Lease × Outcome}
    (reported : scene.router.reported? operation = some report) :
    scene.workOf operation = [] := by
  apply workOf_of_atOnce
  cases operation <;> first | rfl | cases reported

private theorem sampled?_of_silent (silent : scene.router.reported? operation = none) :
    scene.sampled? operation ref record = none := by
  rw [sampled?, silent]
  rfl

theorem settings_of_sampled? {sample : Sample}
    (added : scene.sampled? operation ref record = some sample) :
    ∃ cluster, scene.router.cluster? ref = some cluster ∧
      PassivePolicy.InForce cluster.model.config sample.settings := by
  rw [sampled?, Option.bind_eq_some_iff] at added
  rcases added with ⟨⟨lease, outcome⟩, -, added⟩
  rcases Option.ite_none_right_eq_some.1 added with ⟨rfl, added⟩
  rcases Router.sample?_eq_some_iff.1 added with ⟨cluster, _, _, _, present, -, -, -, rfl⟩
  exact ⟨cluster, present, PassivePolicy.inForce_ofMetadata cluster.model.config⟩

/-- What an operation does to the passive health of a record: it adds a sample and judges
those that are left, it restores the record, or it leaves it as it is. -/
inductive Heeded (scene : Scene) (operation : Operation) (ref : ClusterRef) (record : Nat)
    (after : DestinationHealth) : Prop
  | sampled {sample : Sample} (added : scene.sampled? operation ref record = some sample)
      (moment : sample.now = scene.router.now)
      (calm : scene.restored operation ref record = false)
      (window : after.window = (scene.router.healthOf ref record).window.add sample.now
        sample.failed sample.settings.window)
      (passive : after.passive = sample.settings.verdict after.window)
  | restored (none : scene.sampled? operation ref record = none)
      (rung : scene.restored operation ref record = true)
      (unhealthy : (scene.router.healthOf ref record).passive = .unhealthy)
      (healthy : after.passive = .healthy) (window : after.window = .empty)
  | kept (none : scene.sampled? operation ref record = none)
      (calm : scene.restored operation ref record = false)
      (passive : after.passive = (scene.router.healthOf ref record).passive)
      (window : after.window = (scene.router.healthOf ref record).window)

private theorem heeded {source : RandomSource} {protector : Protector}
    (known : Router.Known (.builtin source protector) scene.router)
    (operation : Operation) (ref : ClusterRef) (record : Nat) :
    Heeded scene operation ref record
      ((scene.perform operation).value.router.healthOf ref record) := by
  cases reported : scene.router.reported? operation with
  | none =>
      have nothing : scene.sampled? operation ref record = none :=
        sampled?_of_silent reported
      cases passage_perform rfl known reported ref record with
      | kept calm same =>
          refine .kept nothing ?_ same.passive same.window
          rw [restored, List.any_eq_false]
          exact fun work member => by simp [calm work member]
      | restored rung unhealthy healthy window =>
          refine .restored nothing ?_ unhealthy healthy window
          rw [restored, List.any_eq_true]
          exact rung
  | some report =>
      rcases report with ⟨lease, outcome⟩
      have calm : scene.restored operation ref record = false := by
        rw [restored, workOf_of_reported reported]
        rfl
      have health := (sameHealth_reported reported).health ref record
      have added : scene.sampled? operation ref record =
          if lease = { cluster := ref, record } then scene.router.sample? lease outcome
          else none := by
        rw [sampled?, reported]
        rfl
      by_cases here : lease = { cluster := ref, record }
      · rw [if_pos here] at added
        cases sampled : scene.router.sample? lease outcome with
        | none =>
            have same :=
              Router.sameRecords_observe_unsampled known.regular sampled ref record
            refine .kept (added.trans sampled) calm ?_ ?_ <;> rw [health, same]
        | some sample =>
            rcases Router.sample?_eq_some_iff.1 sampled with
              ⟨cluster, policy, destination, failed, present, heard, stored, counted, rfl⟩
            subst here
            have judged :=
              Cluster.healthOf_observe_sampled (known.regular ref cluster present)
              scene.router.now heard stored counted
            refine .sampled (added.trans sampled) rfl calm ?_ ?_
            · rw [health, Router.healthOf_observe present, if_pos rfl,
                Router.healthOf_of_cluster? present]
              exact judged.1
            · rw [health, Router.healthOf_observe present, if_pos rfl]
              exact judged.2
      · rw [if_neg here] at added
        have elsewhere : ¬ (ref = lease.cluster ∧ record = lease.record) := by
          rintro ⟨rfl, rfl⟩
          exact here rfl
        have same := Router.healthOf_observe_elsewhere scene.router elsewhere outcome
        refine .kept added calm ?_ ?_ <;> rw [health, same]

/-- The samples of a record are those that its window has counted. -/
structure Remembered (scene : Scene) (ref : ClusterRef) (record : Nat)
    (samples : List Sample) : Prop where
  tally : (scene.router.healthOf ref record).window.Tally samples
  order : ∀ sample ∈ samples, sample.now ≤ scene.router.now

private theorem remembered_after (source : RandomSource) (protector : Protector)
    (background : Bool) (run : List Operation) (ref : ClusterRef) (record : Nat) :
    let start := fresh (.builtin source protector) background
    Remembered (start.after run) ref record (start.samples ref record run) := by
  intro start
  have choosing := Policies.choosing_builtin source protector
  induction run with
  | nil => exact ⟨FailureWindow.tally_empty, List.forall_mem_nil _⟩
  | cons operation earlier induction =>
      have known :
          Router.Known (.builtin source protector) (start.after earlier).router :=
        known_after choosing background earlier
      have later := now_perform known choosing operation
      have order : ∀ sample ∈ start.samples ref record earlier,
          sample.now ≤ ((start.after earlier).perform operation).value.router.now :=
        fun sample member => Nat.le_trans (induction.order sample member) later
      rw [after, samples]
      cases heeded known operation ref record with
      | sampled added moment calm window =>
          rw [calm, added]
          refine ⟨?_, fun sample member => ?_⟩
          · rw [window]
            exact induction.tally.add fun sample member =>
              moment ▸ induction.order sample member
          · rcases List.mem_append.1 member with old | new
            · exact order sample old
            · rw [List.mem_singleton.1 new, moment]
              exact later
      | restored nothing rung _ _ window =>
          rw [rung, if_pos rfl]
          exact ⟨window ▸ FailureWindow.tally_empty, List.forall_mem_nil _⟩
      | kept nothing calm _ window =>
          rw [calm, nothing]
          refine ⟨?_, ?_⟩
          · rw [window]
            simpa using induction.tally
          · simpa using order

theorem router_canceled {lease : Lease} (regular : scene.router.Regular)
    (reported : scene.router.reported? operation = some (lease, .canceled)) :
    (scene.perform operation).value.router = scene.router ∨
      ∃ leases inFlight serial, (scene.perform operation).value.router =
        { scene.router.release lease with leases, inFlight, serial } := by
  have heard := Router.value_observe_canceled regular lease.cluster lease.record
  rcases Router.reported?_cases reported with rfl | ⟨number, ending, held⟩
  · exact .inl heard
  · have ended := Router.value_endLease held .canceled
    rw [heard] at ended
    rcases router_ending ending with ⟨-, same⟩ | ⟨position, request, serial, -, -, same⟩
    · rw [same, ended]
      exact .inr ⟨_, _, _, rfl⟩
    · rw [same, ended]
      exact .inr ⟨_, _, _, rfl⟩

private theorem canceled_perform {lease : Lease} (regular : scene.router.Regular)
    (reported : scene.router.reported? operation = some (lease, .canceled)) :
    let router := scene.router
    let next := (scene.perform operation).value.router
    (∀ ref record, next.healthOf ref record = router.healthOf ref record) ∧
      (∀ ref,
        (next.cluster? ref).map Cluster.lists = (router.cluster? ref).map Cluster.lists) ∧
      next.agenda = router.agenda := by
  have heard := Router.value_observe_canceled regular lease.cluster lease.record
  have same := sameHealth_reported reported
  rw [heard] at same
  refine ⟨same.health, fun ref => ?_, same.agenda⟩
  rcases router_canceled regular reported with
    unchanged | ⟨leases, inFlight, serial, counted⟩
  · rw [unchanged]
  · rw [counted]
    refine (congrArg (Option.map Cluster.lists)
      (Router.cluster?_mapCluster scene.router lease.cluster _ ref)).trans ?_
    split
    · rename_i here
      rw [here, Option.map_map]
      rfl
    · rfl

/-- The passive health of a record, over any run. After a report that is sampled the
record is excluded exactly if the samples that the window retains are enough and fail too
often, under the settings of this very report. Nothing else moves the axis but the timer
of the present exclusion, which makes the record healthy and forgets all samples; and a
canceled request changes no health, no list and no timer. -/
theorem passive_verdict_after (source : RandomSource) (protector : Protector)
    (background : Bool) (run : List Operation) (ref : ClusterRef) (record : Nat) :
    let start := fresh (.builtin source protector) background
    let scene := start.after run
    let passive := (scene.router.healthOf ref record).passive
    let next := fun operation => (scene.perform operation).value.router
    (∀ operation sample, scene.sampled? operation ref record = some sample →
      (∃ cluster, scene.router.cluster? ref = some cluster ∧
        PassivePolicy.InForce cluster.model.config sample.settings) ∧
      (((next operation).healthOf ref record).passive = .unhealthy ↔
        Sample.Condemn sample.settings
          (Sample.retained (start.samples ref record (operation :: run))))) ∧
    (∀ operation, scene.sampled? operation ref record = none →
      if scene.restored operation ref record then
        passive = .unhealthy ∧ ((next operation).healthOf ref record).passive = .healthy
      else ((next operation).healthOf ref record).passive = passive) ∧
    ∀ operation lease, scene.router.reported? operation = some (lease, .canceled) →
      (∀ ref record,
        (next operation).healthOf ref record = scene.router.healthOf ref record) ∧
        (∀ ref, ((next operation).cluster? ref).map Cluster.lists =
          (scene.router.cluster? ref).map Cluster.lists) ∧
        (next operation).agenda = scene.router.agenda := by
  intro start scene passive next
  have known : Router.Known (.builtin source protector) scene.router :=
    known_after (Policies.choosing_builtin source protector) background run
  refine ⟨fun operation sample added => ⟨settings_of_sampled? added, ?_⟩,
    fun operation nothing => ?_,
    fun operation lease reported => canceled_perform known.regular reported⟩
  · have tally :=
      (remembered_after source protector background (operation :: run) ref record).tally
    cases heeded known operation ref record with
    | sampled alsoAdded _ calm window passive =>
        rw [added, Option.some.injEq] at alsoAdded
        subst alsoAdded
        have samples : start.samples ref record (operation :: run) =
            start.samples ref record run ++ [sample] := by
          have now : scene.restored operation ref record = false := calm
          have new : scene.sampled? operation ref record = some sample := added
          simp only [Scene.samples]
          rw [now, new]
          rfl
        rw [passive, samples]
        rw [samples] at tally
        exact tally.verdict_iff (Sample.retained_concat_ne_nil _ _) sample.settings
    | restored nothing =>
        rw [added] at nothing
        cases nothing
    | kept nothing =>
        rw [added] at nothing
        cases nothing
  · cases heeded known operation ref record with
    | sampled added =>
        rw [nothing] at added
        cases added
    | restored _ rung unhealthy healthy =>
        rw [if_pos rung]
        exact ⟨unhealthy, healthy⟩
    | kept _ calm same =>
        rw [if_neg (by simp [calm])]
        exact same

def ratedConfig : ClusterConfig :=
  { sampleConfig with
    metadata := .ofList
      [("TransportFailureRateHealthPolicy.DetectionWindowSize", "1000"),
        ("TransportFailureRateHealthPolicy.MinimalTotalCountThreshold", "+2"),
        ("TransportFailureRateHealthPolicy.RateLimit", "6E-1")] }

/-- Two successes, which are forgotten after five seconds, then a failure and a
success. -/
def ratedRun : List Operation :=
  [.report sampleRef 0 .success, .report sampleRef 0 .backendError, .elapse 5000,
    .report sampleRef 0 .success, .report sampleRef 0 .success, .configure ratedConfig]

/-- One failure of two is not too many, two of three are. -/
theorem passive_verdict_after_rating :
    let scene := sample.after ratedRun
    let report := Operation.report sampleRef 0 .backendError
    ∃ last, scene.sampled? report sampleRef 0 = some last ∧ last.settings.window = 1000 ∧
      last.settings.minimalTotal = 2 ∧
      (scene.router.healthOf sampleRef 0).passive = .healthy ∧
      ((scene.perform report).value.router.healthOf sampleRef 0).passive =
        .unhealthy := by
  intro scene report
  have before : (scene.router.healthOf sampleRef 0).passive = .healthy := by
    decide +kernel
  have given : (scene.sampled? report sampleRef 0).map (fun last =>
      (last.settings.window, last.settings.minimalTotal,
        decide (Sample.Condemn last.settings
          (Sample.retained (sample.samples sampleRef 0 (report :: ratedRun)))))) =
        some (1000, 2, true) := by
    decide +kernel
  rcases Option.map_eq_some_iff.1 given with ⟨last, sampled, same⟩
  simp only [Prod.mk.injEq, decide_eq_true_eq] at same
  rcases same with ⟨window, minimalTotal, condemned⟩
  have verdict := passive_verdict_after (.ofSequence [])
    (.encrypting (List.replicate Protector.keySize 0)) true ratedRun sampleRef 0
  exact ⟨last, sampled, window, minimalTotal, before,
    (verdict.1 report last sampled).2.2 condemned⟩

end Scene

end Gateway
