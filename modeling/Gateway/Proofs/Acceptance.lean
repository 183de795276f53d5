import Gateway.Proofs.Keyed
import Gateway.Proofs.Resolution
import Gateway.Proofs.Text.Cases
import Gateway.Proofs.Traced

namespace Gateway

/-! Which configurations are accepted, and what is told of those that are not. -/

/-! A computation that goes through a list of rules fails with the first fault that is
found. -/

def FailsFirst {ε α : Type} (result : Except ε α) (faults : List ε) : Prop :=
  ∀ fault, result = .error fault ↔ faults.head? = some fault

/-- A rule that may be broken, with the fault that it is. -/
def faultIf {ε : Type} (broken : Prop) [Decidable broken] (fault : ε) : List ε :=
  if broken then [fault] else []

namespace FailsFirst

variable {ε α β : Type} {result : Except ε α} {faults later : List ε}

theorem ok (value : α) : FailsFirst (.ok value : Except ε α) [] :=
  fun _ => iff_of_false nofun nofun

theorem error (fault : ε) (later : List ε) :
    FailsFirst (.error fault : Except ε α) (fault :: later) := by
  intro other
  rw [Except.error.injEq, List.head?_cons, Option.some.injEq]

theorem bind (first : FailsFirst result faults) {next : α → Except ε β}
    (last : ∀ value, result = .ok value → FailsFirst (next value) later) :
    FailsFirst (result >>= next) (faults ++ later) := by
  cases faults with
  | cons fault rest =>
      rw [(first fault).2 rfl]
      exact error fault (rest ++ later)
  | nil =>
      cases same : result with
      | error fault => exact absurd ((first fault).1 same) nofun
      | ok value => exact last value same

theorem map (fails : FailsFirst result faults) (transform : α → β) :
    FailsFirst (transform <$> result) faults := by
  intro fault
  rw [← fails fault]
  cases result with
  | error found =>
      exact iff_of_eq (by rw [Except.error.injEq]; exact (Except.error.injEq ..))
  | ok value => exact iff_of_false nofun nofun

theorem finish (fails : FailsFirst result faults) (value : α → β) :
    FailsFirst (result >>= fun found => .ok (value found)) faults := by
  rw [← List.append_nil faults]
  exact fails.bind fun found _ => ok (value found)

private theorem guard {broken : Prop} [Decidable broken] {fault : ε}
    (fails : ¬ broken → FailsFirst result faults) :
    FailsFirst (if broken then .error fault else result)
    (faultIf broken fault ++ faults) := by
  unfold faultIf
  split
  · exact error fault faults
  · rename_i kept
    exact fails kept

private theorem exists_ok_iff (fails : FailsFirst result faults) :
    (∃ value, result = .ok value) ↔ faults = [] := by
  cases faults with
  | cons fault rest =>
      refine iff_of_false ?_ nofun
      rintro ⟨value, same⟩
      rw [(fails fault).2 rfl] at same
      cases same
  | nil =>
      cases result with
      | error fault => exact absurd ((fails fault).1 rfl) nofun
      | ok value => exact iff_of_true ⟨value, rfl⟩ rfl

end FailsFirst

/-! The policies that a table has for a name. -/

namespace PolicyTable

variable {α : Type} {table : PolicyTable α} {name : Option String} {policy : α}

/-- A policy goes by a name in any case, the default one if none is given. -/
def GoesBy (table : PolicyTable α) (name : Option String) (policy : α) : Prop :=
  Text.SameInAnyCase (table.nameOf policy) (name.getD table.default)

/-- Some policy of the table goes by the name. -/
def Knows (table : PolicyTable α) (name : Option String) : Prop :=
  ∃ policy ∈ table.entries, table.GoesBy name policy

/-- The policy was the last to be added of those that go by the name. -/
def Chooses (table : PolicyTable α) (name : Option String) (policy : α) : Prop :=
  ∃ earlier later, table.entries = earlier ++ policy :: later ∧ table.GoesBy name policy ∧
    ∀ other ∈ later, ¬ table.GoesBy name other

instance (name : Option String) : DecidablePred (table.GoesBy name) :=
  fun policy => inferInstanceAs
    (Decidable (Text.SameInAnyCase (table.nameOf policy) (name.getD table.default)))

instance (name : Option String) : Decidable (table.Knows name) :=
  inferInstanceAs (Decidable (∃ policy ∈ table.entries, table.GoesBy name policy))

/-- What is told of a name that no policy goes by. -/
def unknown (table : PolicyTable α) (cluster : String) (name : Option String) :
    List ConfigurationFault :=
  faultIf (¬ table.Knows name)
    (.unknownPolicy cluster table.kind (name.getD table.default))

private theorem chooses_of_find?
    (found : table.find? (name.getD table.default) = some policy) :
    table.Chooses name policy := by
  rcases List.find?_eq_some_iff_append.1 found with ⟨named, later, earlier, split, others⟩
  refine ⟨earlier.reverse, later.reverse, ?_,
    Text.fold_eq_fold_iff.1 (beq_iff_eq.1 named),
    fun other member same => ?_⟩
  · rw [← List.reverse_reverse table.entries, split]
    simp
  · have different := others other (List.mem_reverse.1 member)
    rw [GoesBy, ← Text.fold_eq_fold_iff] at same
    simp [same] at different

private theorem not_knows_of_find?
    (missing : table.find? (name.getD table.default) = none) :
    ¬ table.Knows name := by
  rintro ⟨policy, member, same⟩
  have different := List.find?_eq_none.1 missing policy (List.mem_reverse.2 member)
  exact different (beq_iff_eq.2 (Text.fold_eq_fold_iff.2 same))

theorem Chooses.mem (chooses : table.Chooses name policy) :
    policy ∈ table.entries ∧ table.GoesBy name policy := by
  rcases chooses with ⟨earlier, later, split, named, -⟩
  refine ⟨?_, named⟩
  rw [split]
  exact List.mem_append_right _ List.mem_cons_self

private theorem Chooses.knows (chooses : table.Chooses name policy) : table.Knows name :=
  ⟨policy, chooses.mem⟩

private theorem chooses_of_resolve {cluster : String}
    (resolved : table.resolve cluster name = .ok policy) : table.Chooses name policy := by
  simp only [resolve] at resolved
  split at resolved
  · rename_i found
    cases resolved
    exact chooses_of_find? found
  · cases resolved

theorem failsFirst_resolve (table : PolicyTable α) (cluster : String)
    (name : Option String) :
    FailsFirst (table.resolve cluster name) (table.unknown cluster name) := by
  simp only [resolve, unknown, faultIf]
  split
  · rename_i policy found
    rw [if_neg (not_not_intro (chooses_of_find? found).knows)]
    exact .ok policy
  · rename_i missing
    rw [if_pos (not_knows_of_find? missing)]
    exact .error _ []

end PolicyTable

namespace ClusterConfig

def Unaddressed (config : ClusterConfig) (id : String) : Prop :=
  ∃ settings, config.destinations.get? id = some settings ∧
    Text.isBlankText settings.address = true

/-- What is told of the destinations without an address, in the order of their ids. -/
def unaddressed (config : ClusterConfig) : List ConfigurationFault :=
  (config.destinations.entries.filter (fun entry => Text.isBlankText entry.2.address)).map
    (fun entry => .missingDestinationAddress config.id entry.1)

end ClusterConfig

namespace Policies

variable {policies : Policies} {config : ClusterConfig}

/-! The faults of a configuration, in the order in which its rules are looked at. Settings
of a disabled feature break no rule. -/

def affinityViolations (policies : Policies) (config : ClusterConfig) :
    List ConfigurationFault :=
  match config.affinity.filter AffinityConfig.enabled with
  | none => []
  | some affinity =>
      faultIf (Http.Header.isName affinity.keyName = false)
          (.invalidAffinityKeyName config.id affinity.keyName) ++
        (policies.affinity.unknown config.id affinity.policy ++
          policies.affinityFailure.unknown config.id affinity.failurePolicy)

def activeViolations (policies : Policies) (config : ClusterConfig) :
    List ConfigurationFault :=
  if config.healthCheck.active.enabled then
    faultIf (config.healthCheck.active.interval = 0) (.zeroProbeInterval config.id) ++
      (faultIf (config.healthCheck.active.timeout = 0) (.zeroProbeTimeout config.id) ++
        policies.active.unknown config.id config.healthCheck.active.policy)
  else []

def passiveViolations (policies : Policies) (config : ClusterConfig) :
    List ConfigurationFault :=
  if config.healthCheck.passive.enabled then
    policies.passive.unknown config.id config.healthCheck.passive.policy
  else []

/-- The faults behind those of the id and of the destinations. -/
def laterViolations (policies : Policies) (config : ClusterConfig) :
    List ConfigurationFault :=
  faultIf (config.forwarding.activityTimeout = 0) (.zeroActivityTimeout config.id) ++
    (policies.loadBalancing.unknown config.id config.loadBalancing ++
      (policies.affinityViolations config ++
        (policies.availability.unknown config.id config.healthCheck.availability ++
          (policies.activeViolations config ++ policies.passiveViolations config))))

def violations (policies : Policies) (config : ClusterConfig) : List ConfigurationFault :=
  faultIf (Text.isBlankText config.id = true) .emptyClusterId ++
    (config.unaddressed ++ policies.laterViolations config)

private theorem failsFirst_checkDestinations (config : ClusterConfig) :
    FailsFirst (checkDestinations config) config.unaddressed := by
  have first : (config.destinations.entries.filter
      (fun entry => Text.isBlankText entry.2.address)).head? = _ := List.head?_filter
  unfold checkDestinations ClusterConfig.unaddressed
  split
  · rename_i destination settings found
    rw [found] at first
    rcases List.head?_eq_some_iff.1 first with ⟨rest, split⟩
    rw [split]
    exact .error _ _
  · rename_i missing
    rw [missing, List.head?_eq_none_iff] at first
    rw [first]
    exact .ok ()

private theorem failsFirst_resolveAffinity (policies : Policies)
    (config : ClusterConfig) :
    FailsFirst (policies.resolveAffinity config)
    (policies.affinityViolations config) := by
  cases enabled : config.affinity.filter AffinityConfig.enabled with
  | none =>
      simp only [resolveAffinity, affinityViolations, enabled]
      exact .ok none
  | some affinity =>
      simp only [resolveAffinity, affinityViolations, enabled]
      cases valid : Http.Header.isName affinity.keyName with
      | false => exact .error _ _
      | true =>
          have handled := policies.affinityFailure.failsFirst_resolve config.id
            affinity.failurePolicy
          exact (policies.affinity.failsFirst_resolve config.id affinity.policy).bind
            fun policy _ => handled.finish fun failurePolicy =>
              some ({ config := affinity, policy, failurePolicy } : AffinityModel)

private theorem failsFirst_resolveActive (policies : Policies) (config : ClusterConfig) :
    FailsFirst (policies.resolveActive config) (policies.activeViolations config) := by
  cases enabled : config.healthCheck.active.enabled with
  | false =>
      simp only [resolveActive, activeViolations, enabled]
      exact .ok none
  | true =>
      simp only [resolveActive, activeViolations, enabled]
      exact .guard fun _ => .guard fun _ =>
        (policies.active.failsFirst_resolve config.id
          config.healthCheck.active.policy).map some

private theorem failsFirst_resolvePassive (policies : Policies) (config : ClusterConfig) :
    FailsFirst (policies.resolvePassive config) (policies.passiveViolations config) := by
  cases enabled : config.healthCheck.passive.enabled with
  | false =>
      simp only [resolvePassive, passiveViolations, enabled]
      exact .ok none
  | true =>
      simp only [resolvePassive, passiveViolations, enabled]
      exact (policies.passive.failsFirst_resolve config.id
        config.healthCheck.passive.policy).map some

theorem failsFirst_resolve (policies : Policies) (config : ClusterConfig) :
    FailsFirst (policies.resolve config) (policies.violations config) := by
  unfold resolve violations laterViolations
  refine .guard fun named => ?_
  refine (failsFirst_checkDestinations config).bind fun _ _ => ?_
  refine .guard fun timed => ?_
  refine (policies.loadBalancing.failsFirst_resolve config.id _).bind
    fun loadBalancing _ => ?_
  refine (failsFirst_resolveAffinity policies config).bind fun affinity _ => ?_
  refine (policies.availability.failsFirst_resolve config.id _).bind
    fun availability _ => ?_
  refine (failsFirst_resolveActive policies config).bind fun active _ => ?_
  exact (failsFirst_resolvePassive policies config).finish fun passive =>
    ({ config, loadBalancing, affinity, availability, active, passive } : ClusterModel)

private theorem faultIf_eq_nil_iff {ε : Type} {broken : Prop} [Decidable broken]
    {fault : ε} :
    faultIf broken fault = [] ↔ ¬ broken := by
  unfold faultIf
  split
  · rename_i holds
    exact iff_of_false nofun (not_not_intro holds)
  · rename_i fails
    exact iff_of_true rfl fails

structure Acceptable (policies : Policies) (config : ClusterConfig) : Prop where
  named : Text.isBlankText config.id = false
  addressed : ∀ id, ¬ config.Unaddressed id
  activityTimeout : config.forwarding.activityTimeout ≠ 0
  loadBalancing : policies.loadBalancing.Knows config.loadBalancing
  availability : policies.availability.Knows config.healthCheck.availability
  affinity : ∀ affinity, config.affinity = some affinity → affinity.enabled = true →
    Http.Header.isName affinity.keyName = true ∧ policies.affinity.Knows affinity.policy ∧
      policies.affinityFailure.Knows affinity.failurePolicy
  active : config.healthCheck.active.enabled = true →
    config.healthCheck.active.interval ≠ 0 ∧ config.healthCheck.active.timeout ≠ 0 ∧
      policies.active.Knows config.healthCheck.active.policy
  passive : config.healthCheck.passive.enabled = true →
    policies.passive.Knows config.healthCheck.passive.policy

private theorem unaddressed_eq_nil_iff :
    config.unaddressed = [] ↔ ∀ id, ¬ config.Unaddressed id := by
  rw [ClusterConfig.unaddressed, List.map_eq_nil_iff, List.filter_eq_nil_iff]
  constructor
  · rintro addressed id ⟨settings, there, blank⟩
    exact addressed (id, settings) ((Keyed.get?_eq_some_iff _ _ _).1 there) blank
  · rintro addressed ⟨id, settings⟩ member blank
    exact addressed id ⟨settings, (Keyed.get?_eq_some_iff _ _ _).2 member, blank⟩

private theorem unknown_eq_nil_iff {α : Type} {table : PolicyTable α} {cluster : String}
    {name : Option String} : table.unknown cluster name = [] ↔ table.Knows name := by
  rw [PolicyTable.unknown, faultIf_eq_nil_iff, Decidable.not_not]

private theorem affinityViolations_eq_nil_iff : policies.affinityViolations config = [] ↔
    ∀ affinity, config.affinity = some affinity → affinity.enabled = true →
      Http.Header.isName affinity.keyName = true ∧
        policies.affinity.Knows affinity.policy ∧
          policies.affinityFailure.Knows affinity.failurePolicy := by
  have looked :
      ∀ affinity, config.affinity.filter AffinityConfig.enabled = some affinity ↔
        config.affinity = some affinity ∧ affinity.enabled = true :=
    fun _ => Option.filter_eq_some_iff
  unfold affinityViolations
  split
  · rename_i disabled
    refine iff_of_true rfl fun affinity there enabled => ?_
    rw [(looked affinity).2 ⟨there, enabled⟩] at disabled
    cases disabled
  · rename_i affinity there
    have here := (looked affinity).1 there
    rw [List.append_eq_nil_iff, List.append_eq_nil_iff, faultIf_eq_nil_iff,
      unknown_eq_nil_iff, unknown_eq_nil_iff, Bool.not_eq_false]
    constructor
    · intro kept other same enabled
      rw [same, Option.some.injEq] at here
      exact here.1 ▸ kept
    · intro kept
      exact kept affinity here.1 here.2

private theorem violations_eq_nil_iff :
    policies.violations config = [] ↔ policies.Acceptable config := by
  simp only [violations, laterViolations, activeViolations, passiveViolations,
    ite_eq_right_iff, List.append_eq_nil_iff, faultIf_eq_nil_iff, unaddressed_eq_nil_iff,
    unknown_eq_nil_iff, affinityViolations_eq_nil_iff, Bool.not_eq_true]
  constructor
  · rintro ⟨named, addressed, timed, balanced, bound, selected, probed, observed⟩
    exact ⟨named, addressed, timed, balanced, selected, bound, probed, observed⟩
  · rintro ⟨named, addressed, timed, balanced, selected, bound, probed, observed⟩
    exact ⟨named, addressed, timed, balanced, bound, selected, probed, observed⟩

/-! A missing address is the first fault of the destination with the least id that has
none. -/

private theorem mem_faultIf_iff {ε : Type} {broken : Prop} [Decidable broken]
    {fault other : ε} :
    other ∈ faultIf broken fault ↔ broken ∧ other = fault := by
  rw [faultIf, List.mem_ite_nil_right, List.mem_singleton]

private theorem least_of_head?_unaddressed {cluster destination : String}
    (first :
      config.unaddressed.head? = some (.missingDestinationAddress cluster destination)) :
    cluster = config.id ∧ config.Unaddressed destination ∧
      ∀ other, config.Unaddressed other → destination ≤ other := by
  rw [ClusterConfig.unaddressed, List.head?_map, List.head?_filter] at first
  rcases Option.map_eq_some_iff.1 first with ⟨⟨id, settings⟩, found, same⟩
  cases same
  rcases List.find?_eq_some_iff_append.1 found with
    ⟨blank, before, after, split, addressed⟩
  have ascending := config.destinations.ascending
  have member : (id, settings) ∈ config.destinations.entries :=
    List.mem_of_find?_eq_some found
  refine ⟨rfl, ⟨settings, (Keyed.get?_eq_some_iff _ _ _).2 member, blank⟩, ?_⟩
  rintro other ⟨otherSettings, there, otherBlank⟩
  have listed := (Keyed.get?_eq_some_iff _ _ _).1 there
  rw [split] at listed ascending
  rcases List.mem_append.1 listed with earlier | later
  · have kept := addressed _ earlier
    rw [otherBlank] at kept
    cases kept
  · rcases List.mem_cons.1 later with same | later
    · cases same
      exact String.le_refl _
    · have behind := (List.pairwise_append.1 ascending).2.1
      exact String.not_lt.1 (String.lt_asymm ((List.pairwise_cons.1 behind).1 _ later))

private theorem not_missing_of_affinity {cluster destination : String} :
    .missingDestinationAddress cluster destination ∉
      policies.affinityViolations config := by
  unfold affinityViolations
  split
  · exact List.not_mem_nil
  · simp [PolicyTable.unknown, mem_faultIf_iff]

private theorem not_missing_later {cluster destination : String} :
    .missingDestinationAddress cluster destination ∉ policies.laterViolations config := by
  have affinity :
      .missingDestinationAddress cluster destination ∉
        policies.affinityViolations config :=
    not_missing_of_affinity
  simp [laterViolations, activeViolations, passiveViolations, PolicyTable.unknown,
    mem_faultIf_iff, affinity]

private theorem least_of_missing {cluster destination : String}
    (first : (policies.violations config).head? =
      some (.missingDestinationAddress cluster destination)) :
    cluster = config.id ∧ config.Unaddressed destination ∧
      ∀ other, config.Unaddressed other → destination ≤ other := by
  unfold violations faultIf at first
  split at first
  · cases first
  · rw [List.nil_append] at first
    cases addresses : config.unaddressed with
    | nil =>
        rw [addresses, List.nil_append] at first
        exact absurd (List.mem_of_mem_head? first) not_missing_later
    | cons fault rest =>
        rw [addresses] at first
        exact least_of_head?_unaddressed (addresses ▸ first)

/-! What an accepted configuration leads to. -/

/-- A model of a configuration: it holds the configuration as it is, has the parts of the
features that are enabled and of no others, and the policies that are chosen by their
names. -/
structure Models (policies : Policies) (config : ClusterConfig) (model : ClusterModel) :
    Prop where
  settings : model.config = config
  loadBalancing : policies.loadBalancing.Chooses config.loadBalancing model.loadBalancing
  availability :
    policies.availability.Chooses config.healthCheck.availability model.availability
  affinity :
    model.affinity.map AffinityModel.config =
      config.affinity.filter AffinityConfig.enabled
  affinityPolicies : ∀ affinity, model.affinity = some affinity →
    policies.affinity.Chooses affinity.config.policy affinity.policy ∧
      policies.affinityFailure.Chooses affinity.config.failurePolicy
        affinity.failurePolicy
  active : model.active.isSome = config.healthCheck.active.enabled
  activePolicy : ∀ policy, model.active = some policy →
    policies.active.Chooses config.healthCheck.active.policy policy
  passive : model.passive.isSome = config.healthCheck.passive.enabled
  passivePolicy : ∀ policy, model.passive = some policy →
    policies.passive.Chooses config.healthCheck.passive.policy policy

private theorem chooses_of_resolveActive {policy : ActivePolicy}
    (resolved : policies.resolveActive config = .ok (some policy)) :
    policies.active.Chooses config.healthCheck.active.policy policy := by
  simp only [resolveActive] at resolved
  split at resolved
  · cases resolved
  · split at resolved
    · cases resolved
    · split at resolved
      · cases resolved
      · exact PolicyTable.chooses_of_resolve (map_some_eq_ok resolved)

private theorem chooses_of_resolvePassive {policy : PassivePolicy}
    (resolved : policies.resolvePassive config = .ok (some policy)) :
    policies.passive.Chooses config.healthCheck.passive.policy policy := by
  simp only [resolvePassive] at resolved
  split at resolved
  · cases resolved
  · exact PolicyTable.chooses_of_resolve (map_some_eq_ok resolved)

private theorem models_of_resolve {model : ClusterModel}
    (accepted : policies.resolve config = .ok model) :
    policies.Models config model := by
  have rules := accepts_of_resolve accepted
  have settled : ∀ affinity, model.affinity = some affinity →
      policies.AffinitySettled config affinity :=
    fun affinity bound => settled_of_resolveAffinity (bound ▸ rules.affinity)
  exact
    { settings := rules.settings
      loadBalancing := PolicyTable.chooses_of_resolve rules.loadBalancing
      availability := PolicyTable.chooses_of_resolve rules.availability
      affinity := affinity_of_resolveAffinity rules.affinity
      affinityPolicies := fun affinity bound =>
        ⟨PolicyTable.chooses_of_resolve (settled affinity bound).policy,
          PolicyTable.chooses_of_resolve (settled affinity bound).failurePolicy⟩
      active := (active_of_resolveActive rules.active).1
      activePolicy := fun policy there => chooses_of_resolveActive (there ▸ rules.active)
      passive := passive_of_resolvePassive rules.passive
      passivePolicy := fun policy there =>
        chooses_of_resolvePassive (there ▸ rules.passive) }

/-- Two configurations with the same settings, those of disabled features apart. -/
structure SameIfEnabled (config other : ClusterConfig) : Prop where
  id : other.id = config.id
  destinations : other.destinations = config.destinations
  forwarding : other.forwarding = config.forwarding
  loadBalancing : other.loadBalancing = config.loadBalancing
  availability : other.healthCheck.availability = config.healthCheck.availability
  affinity : other.affinity.filter AffinityConfig.enabled =
    config.affinity.filter AffinityConfig.enabled
  active : other.healthCheck.active = config.healthCheck.active ∨
    other.healthCheck.active.enabled = false ∧ config.healthCheck.active.enabled = false
  passive : other.healthCheck.passive = config.healthCheck.passive ∨
    other.healthCheck.passive.enabled = false ∧ config.healthCheck.passive.enabled = false

section

variable {other : ClusterConfig} (same : SameIfEnabled config other)

include same

private theorem checkDestinations_of_same :
    checkDestinations other = checkDestinations config := by
  rw [checkDestinations, checkDestinations, same.destinations, same.id]

private theorem resolveAffinity_of_sameIfEnabled (policies : Policies) :
    policies.resolveAffinity other = policies.resolveAffinity config := by
  rw [resolveAffinity, resolveAffinity, same.affinity, same.id]

private theorem resolveActive_of_same (policies : Policies) :
    policies.resolveActive other = policies.resolveActive config := by
  rcases same.active with alike | ⟨disabled, also⟩
  · rw [resolveActive, resolveActive, alike, same.id]
  · simp only [resolveActive, disabled, also, Bool.not_false, if_true]

private theorem resolvePassive_of_same (policies : Policies) :
    policies.resolvePassive other = policies.resolvePassive config := by
  rcases same.passive with alike | ⟨disabled, also⟩
  · rw [resolvePassive, resolvePassive, alike, same.id]
  · simp only [resolvePassive, disabled, also, Bool.not_false, if_true]

/-- The settings of a disabled feature decide nothing: neither whether a configuration is
accepted, nor its fault, nor its policies. -/
theorem resolve_of_same (policies : Policies) :
    policies.resolve other =
      (fun model => { model with config := other }) <$> policies.resolve config := by
  unfold resolve
  rw [checkDestinations_of_same same, resolveAffinity_of_sameIfEnabled same,
    resolveActive_of_same same, resolvePassive_of_same same, same.id, same.forwarding,
    same.loadBalancing, same.availability]
  simp only [apply_ite (Functor.map _), map_bind]
  rfl

end

/-- A configuration is accepted if it keeps every rule, and is refused with its first
fault otherwise; a missing address is reported of the destination with the least id that
has none. The model of an accepted configuration holds it unchanged, with the parts of the
features that are enabled and with the policies that its names stand for. Whatever stands
in the settings of a disabled feature, the outcome is the same. -/
theorem configuration_acceptance (policies : Policies) (config : ClusterConfig) :
    ((∃ model, policies.resolve config = .ok model) ↔ policies.Acceptable config) ∧
    (∀ fault, policies.resolve config = .error fault ↔
      (policies.violations config).head? = some fault) ∧
    (∀ cluster destination,
      policies.resolve config = .error (.missingDestinationAddress cluster destination) →
        cluster = config.id ∧ config.Unaddressed destination ∧
          ∀ other, config.Unaddressed other → destination ≤ other) ∧
    (∀ model, policies.resolve config = .ok model → policies.Models config model) ∧
    ∀ other, SameIfEnabled config other →
      policies.resolve other =
        (fun model => { model with config := other }) <$> policies.resolve config := by
  have fails := failsFirst_resolve policies config
  refine ⟨?_, fails, fun cluster destination refused => ?_, fun model =>
    models_of_resolve, fun other same => resolve_of_same same policies⟩
  · rw [fails.exists_ok_iff, violations_eq_nil_iff]
  · exact least_of_missing ((fails _).1 refused)

/-- Names in odd case, one of them with a Kelvin sign: the configuration is accepted, and
its model has the policies that are meant. -/
theorem configuration_acceptance_in_any_case :
    let policies := Policies.builtin (.ofSequence [])
      (.encrypting (List.replicate Protector.keySize 0))
    let config : ClusterConfig :=
      { id := "cluster"
        loadBalancing := some "roundROBIN"
        affinity :=
          some { enabled := true, policy := some "COO\u212aie", keyName := "Session" } }
    ∃ model affinity, policies.resolve config = .ok model ∧
      model.loadBalancing.name = "RoundRobin" ∧ model.affinity = some affinity ∧
      affinity.policy.name = "Cookie" ∧ affinity.failurePolicy.name = "Redistribute" := by
  intro policies config
  have balancers : ∀ balancer ∈ policies.loadBalancing.entries,
      policies.loadBalancing.GoesBy config.loadBalancing balancer →
        balancer.name = "RoundRobin" := by
    decide +kernel
  have carriers : ∀ policy ∈ policies.affinity.entries,
      policies.affinity.GoesBy (some "COO\u212aie") policy → policy.name = "Cookie" := by
    decide +kernel
  have reactions : ∀ policy ∈ policies.affinityFailure.entries,
      policies.affinityFailure.GoesBy none policy → policy.name = "Redistribute" := by
    decide +kernel
  have acceptable : policies.Acceptable config :=
    violations_eq_nil_iff.1 (by decide +kernel)
  rcases configuration_acceptance policies config with ⟨accepted, -, -, models, -⟩
  rcases accepted.2 acceptable with ⟨model, resolved⟩
  have rules := models model resolved
  rcases Option.map_eq_some_iff.1 rules.affinity with ⟨affinity, bound, settings⟩
  have chosen := rules.affinityPolicies affinity bound
  rw [settings] at chosen
  have named := rules.loadBalancing.mem
  exact ⟨model, affinity, resolved, balancers _ named.1 named.2, bound,
    carriers _ chosen.1.mem.1 chosen.1.mem.2, reactions _ chosen.2.mem.1 chosen.2.mem.2⟩

end Policies

end Gateway
