import Gateway.Proofs.Cluster.Observation
import Gateway.Router.Registry

namespace Gateway.Cluster

/-! The published lists and what they should hold. A cluster is coherent when its
names stand for the configured destinations and its lists are those that would be
published now. -/

def admits (cluster : Cluster) (number : Nat) : Bool :=
  cluster.model.config.healthCheck.admits (cluster.healthOf number)

/-- The records that an availability policy selects now. -/
def selected (cluster : Cluster) : List Nat :=
  let admitted := cluster.current.values.filter cluster.admits
  if cluster.model.availability.name = AvailabilityPolicy.healthyOrPanic.name ∧
    admitted = [] then
    cluster.current.values
  else admitted

/-- The names are those of the configuration, and each stands for a record with
the configured settings. -/
structure Enrolled (cluster : Cluster) : Prop where
  keys : cluster.current.keys = cluster.model.config.destinations.keys
  record : ∀ id number, cluster.current.get? id = some number →
    ∃ destination, cluster.records[number]? = some destination ∧ destination.id = id ∧
      cluster.model.config.destinations.get? id = some destination.config

theorem Enrolled.names {cluster : Cluster} (enrolled : cluster.Enrolled) :
    Names cluster.current cluster.records := by
  intro id number named
  rcases enrolled.record id number named with ⟨destination, stored, same, -⟩
  exact ⟨destination, stored, same⟩

structure Published (cluster : Cluster) : Prop where
  all : cluster.all = cluster.current.values
  available : cluster.available = cluster.selected

structure Coherent (cluster : Cluster) : Prop extends Enrolled cluster, Published cluster

private theorem selected_congr (before after : Cluster)
    (model : after.model = before.model) (current : after.current = before.current)
    (admits : ∀ number, after.admits number = before.admits number) :
    after.selected = before.selected := by
  have same : after.admits = before.admits := funext admits
  simp only [selected, model, current, same]

/-! Publishing. The candidates of the current numbers are all there, so that the
policy sees each of them, and it sees nothing but their health. -/

theorem map_record_candidates (cluster : Cluster) (numbers : List Nat)
    (stored : ∀ number ∈ numbers, number < cluster.records.length) :
    (cluster.candidates numbers).map Candidate.record = numbers := by
  induction numbers with
  | nil => rfl
  | cons number rest induction =>
      have bound := stored number (List.mem_cons_self ..)
      have found : cluster.candidate? number =
          some { record := number, destination := cluster.records[number] } := by
        simp [candidate?, bound]
      simp only [candidates, List.filterMap_cons, found, List.map_cons]
      exact congrArg (number :: ·)
        (induction fun other member => stored other (List.mem_cons_of_mem _ member))

theorem Names.lt_length {current : Keyed Nat} {records : List Destination}
    (names : Names current records) {number : Nat} (member : number ∈ current.values) :
    number < records.length := by
  rcases (Keyed.mem_values_iff _ _).1 member with ⟨id, named⟩
  rcases names id number named with ⟨destination, stored, -⟩
  exact (List.getElem?_eq_some_iff.1 stored).1

private theorem map_record_admitted (cluster : Cluster)
    (names : Names cluster.current cluster.records) :
    (AvailabilityPolicy.admitted cluster.model.config
        (cluster.candidates cluster.current.values)).map Candidate.record =
      cluster.current.values.filter cluster.admits := by
  have seen : AvailabilityPolicy.admitted cluster.model.config
      (cluster.candidates cluster.current.values) =
        (cluster.candidates cluster.current.values).filter
          (fun candidate => cluster.admits candidate.record) := by
    apply List.filter_congr
    intro candidate member
    rcases (mem_candidates_iff _ _ _).1 member with ⟨-, stored⟩
    rw [admits, healthOf_of_getElem? stored]
  have there := map_record_candidates cluster cluster.current.values fun _ =>
      names.lt_length
  conv => rhs; rw [← there]
  rw [seen, List.filter_map]
  rfl

private theorem available_publish {cluster : Cluster}
    (names : Names cluster.current cluster.records)
    (known : cluster.model.availability ∈ AvailabilityPolicy.builtin) :
    cluster.publish.value.available = cluster.selected := by
  have there := map_record_candidates cluster cluster.current.values fun _ =>
      names.lt_length
  have admitted := map_record_admitted cluster names
  change ((cluster.model.availability.select cluster.model.config
    (cluster.candidates cluster.current.values)).value).map Candidate.record = _
  simp only [AvailabilityPolicy.builtin, List.mem_cons, List.not_mem_nil,
    or_false] at known
  rcases known with policy | policy
  · have regular : ¬ AvailabilityPolicy.healthyAndUnknown.name =
        AvailabilityPolicy.healthyOrPanic.name := by decide
    rw [selected, policy, if_neg fun panics => regular panics.1]
    exact admitted
  · rw [selected, policy]
    simp only [AvailabilityPolicy.healthyOrPanic, true_and]
    by_cases none : cluster.current.values.filter cluster.admits = []
    · rw [if_pos none]
      have nobody : AvailabilityPolicy.admitted cluster.model.config
          (cluster.candidates cluster.current.values) = [] := by
        rw [none] at admitted
        exact List.map_eq_nil_iff.1 admitted
      split
      · exact there
      · rename_i empty
        simp only [nobody, List.isEmpty_nil, Bool.true_and, Bool.not_eq_true',
          Bool.not_eq_false, List.isEmpty_iff] at empty
        rw [empty, List.map_nil] at there
        rw [Traced.value_pure, nobody, List.map_nil, there]
    · rw [if_neg none]
      have someone : (AvailabilityPolicy.admitted cluster.model.config
          (cluster.candidates cluster.current.values)).isEmpty = false := by
        rw [List.isEmpty_eq_false_iff]
        intro empty
        rw [empty, List.map_nil] at admitted
        exact none admitted.symm
      simp only [someone, Bool.false_and, Bool.false_eq_true, if_false, Traced.value_pure]
      exact admitted

private theorem coherent_publish {cluster : Cluster} (enrolled : cluster.Enrolled)
    (known : cluster.model.availability ∈ AvailabilityPolicy.builtin) :
    cluster.publish.value.Coherent where
  keys := enrolled.keys
  record := enrolled.record
  all := rfl
  available := available_publish enrolled.names known

theorem Coherent.publish_eq {cluster : Cluster} (coherent : cluster.Coherent)
    (known : cluster.model.availability ∈ AvailabilityPolicy.builtin) :
    cluster.publish.value = cluster := by
  have available := available_publish coherent.names known
  have all := coherent.all
  have same := coherent.available
  change { cluster with
    all := cluster.current.values
    available := cluster.publish.value.available } = cluster
  rw [available, ← same, ← all]

/-! What keeps a cluster coherent. A new model is enrolled and published whatever
was there before; a change of health needs a new publication only if it moves an
enabled axis. -/

theorem enrolled_of_configs {cluster : Cluster} (model : ClusterModel)
    (names : Names cluster.current cluster.records) :
    ({ cluster with model }.reconcile model.config.destinations).value.Enrolled := by
  rw [value_reconcile { cluster with model } _ names]
  refine ⟨keys_enrolledNames _ _, fun id number named => ?_⟩
  have given := (Keyed.get?_eq_some_iff _ _ _).1 named
  have enrolled := enrolled_of_mem_enroll cluster.current cluster.records
    model.config.destinations.entries names (map_fst_distinct _) given
  rcases enrolled with ⟨destination, stored, same, configured⟩
  exact ⟨destination, stored, same, (Keyed.get?_eq_some_iff _ _ _).2 configured⟩

theorem model_reconcile (cluster : Cluster) (configs : Keyed DestinationConfig) :
    (cluster.reconcile configs).value.model = cluster.model := by
  simp only [reconcile]
  split <;> rfl

theorem coherent_applyModel {cluster : Cluster} {model : ClusterModel}
    (names : Names cluster.current cluster.records)
    (known : model.availability ∈ AvailabilityPolicy.builtin) :
    (Router.applyModel cluster model).value.Coherent := by
  have same := model_reconcile { cluster with model } model.config.destinations
  exact coherent_publish (enrolled_of_configs model names) (by rw [same]; exact known)

private theorem Enrolled.onlyHealth {before after : Cluster} (enrolled : before.Enrolled)
    (frame : OnlyHealth before after) : after.Enrolled where
  keys := by rw [frame.current, frame.model]; exact enrolled.keys
  record := by
    intro id number named
    rw [frame.current] at named
    rcases enrolled.record id number named with ⟨destination, stored, same, configured⟩
    rw [frame.model]
    exact ⟨_, frame.getElem? stored, same, configured⟩

theorem Published.congr {before after : Cluster} (published : before.Published)
    (frame : OnlyHealth before after) (all : after.all = before.all)
    (available : after.available = before.available)
    (admits : ∀ number, after.admits number = before.admits number) :
    after.Published where
  all := by rw [all, frame.current]; exact published.all
  available := by
    rw [available, selected_congr before after frame.model frame.current admits]
    exact published.available

private theorem admits_congr (before after : Cluster) (model : after.model = before.model)
    {number : Nat}
    (active : (after.healthOf number).active = (before.healthOf number).active)
    (passive : (after.healthOf number).passive = (before.healthOf number).passive) :
    after.admits number = before.admits number := by
  simp only [admits, HealthCheckConfig.admits, model, active, passive]

theorem Coherent.setHealth {cluster : Cluster} (coherent : cluster.Coherent)
    {record : Nat} {destination : Destination}
    (stored : cluster.records[record]? = some destination)
    {health : DestinationHealth} (active : health.active = destination.health.active)
    (passive : health.passive = destination.health.passive) :
    (cluster.setHealth record health).Coherent := by
  have frame := onlyHealth_setHealth cluster record health
  refine ⟨coherent.toEnrolled.onlyHealth frame,
    coherent.toPublished.congr frame rfl rfl fun number =>
      admits_congr cluster (cluster.setHealth record health) rfl ?_ ?_⟩
  all_goals
    rw [healthOf_setHealth stored]
    split
    · rename_i here
      subst here
      rw [healthOf_of_getElem? stored]
      assumption
    · rfl

theorem Coherent.observe {cluster : Cluster} (coherent : cluster.Coherent)
    (known : cluster.model.availability ∈ AvailabilityPolicy.builtin)
    (regular : cluster.Regular) (now record : Nat) (outcome : Outcome) :
    (cluster.observe now record outcome).value.1.Coherent := by
  have active : ∀ {policy : PassivePolicy} {destination : Destination}
      {health : DestinationHealth}, cluster.model.passive = some policy →
      (policy.observe cluster.model.config now destination outcome).value = health →
      health.active = destination.health.active := by
    intro policy destination health heard judged
    rcases regular.eq heard with rfl
    rw [← judged]
    exact (PassivePolicy.observe_transportFailureRate_frame _ _ _ _).1
  have result := observe_result cluster now record outcome
  generalize (cluster.observe now record outcome).value = observed at result ⊢
  cases result with
  | unheard => exact coherent
  | unmoved heard stored judged same =>
      exact coherent.setHealth stored (active heard judged) same
  | recovered =>
      exact coherent_publish (coherent.toEnrolled.onlyHealth (onlyHealth_setHealth _ _ _))
        known
  | @excluded _ destination health heard stored =>
      have enrolled :=
        coherent.toEnrolled.onlyHealth (onlyHealth_setHealth _ record health)
      have restored : (cluster.setHealth record health).publish.value.records[record]? =
          some (destination.withHealth health) := by
        have found := (onlyHealth_setHealth cluster record health).getElem? stored
        rwa [healthOf_setHealth stored, if_pos rfl] at found
      exact (coherent_publish enrolled known).setHealth restored rfl rfl

theorem Coherent.reactivate {cluster : Cluster} (coherent : cluster.Coherent)
    (known : cluster.model.availability ∈ AvailabilityPolicy.builtin)
    (exclusion : Exclusion) :
    (cluster.reactivate exclusion).value.Coherent := by
  by_cases current : (cluster.healthOf exclusion.record).exclusions =
    exclusion.generation ∧
      (cluster.healthOf exclusion.record).passive = .unhealthy
  · rw [value_reactivate_of_current current.1 current.2]
    exact coherent_publish (coherent.toEnrolled.onlyHealth (onlyHealth_setHealth _ _ _))
      known
  · rw [value_reactivate_of_stale current]
    exact coherent

theorem Coherent.settleProbes {cluster : Cluster} (coherent : cluster.Coherent)
    (known : cluster.model.availability ∈ AvailabilityPolicy.builtin)
    (results : List (Nat × ProbeOutcome)) :
    (cluster.settleProbes ActivePolicy.consecutiveFailures results).value.Coherent := by
  have judged := judged_consecutiveFailures cluster results
  unfold Cluster.settleProbes
  simp only [Traced.value_bind]
  generalize (cluster.judgeProbes ActivePolicy.consecutiveFailures results).value = after
    at judged ⊢
  rcases after with ⟨after, changed⟩
  have enrolled : after.Enrolled := coherent.toEnrolled.onlyHealth judged.frame
  cases changed with
  | true =>
      refine coherent_publish enrolled ?_
      rw [judged.frame.model]
      exact known
  | false =>
      rcases judged.unchanged rfl with ⟨-, active⟩
      refine ⟨enrolled, coherent.toPublished.congr judged.frame judged.all
        judged.available fun number => ?_⟩
      exact admits_congr cluster after judged.frame.model (active number)
        (judged.probed.passive number)

theorem Coherent.modifyRecord {cluster : Cluster} (coherent : cluster.Coherent)
    (record : Nat) {change : Destination → Destination}
    (id : ∀ destination, (change destination).id = destination.id)
    (config : ∀ destination, (change destination).config = destination.config)
    (health : ∀ destination, (change destination).health = destination.health) :
    (cluster.modifyRecord record change).Coherent where
  keys := coherent.keys
  record := by
    intro key number named
    rcases coherent.record key number named with ⟨destination, stored, same, configured⟩
    by_cases here : record = number
    · refine ⟨change destination, ?_, (id destination).trans same, ?_⟩
      · simp [Cluster.modifyRecord, here, stored]
      · rw [config]
        exact configured
    · refine ⟨destination, ?_, same, configured⟩
      simp [Cluster.modifyRecord, here, stored]
  all := coherent.all
  available := by
    let changed := cluster.modifyRecord record change
    have admits : ∀ number, changed.admits number = cluster.admits number :=
      fun number => by
      have same : changed.healthOf number = cluster.healthOf number :=
        Destination.healthAt_modify cluster.records record number change health
      exact admits_congr cluster changed rfl (congrArg DestinationHealth.active same)
        (congrArg DestinationHealth.passive same)
    exact coherent.available.trans (selected_congr cluster changed rfl rfl admits).symm

end Gateway.Cluster
