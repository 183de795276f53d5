import Gateway.Policies
import Gateway.Proofs.Traced

namespace Gateway

/-! What is known about a model that was accepted: its policies come from the
tables, and those of a feature are there exactly if the feature is enabled. -/

theorem PolicyTable.mem_of_resolve {α : Type} {table : PolicyTable α} {cluster : String}
    {name : Option String} {policy : α}
    (resolved : table.resolve cluster name = .ok policy) : policy ∈ table.entries := by
  simp only [PolicyTable.resolve] at resolved
  split at resolved
  · rename_i found
    cases resolved
    exact List.mem_reverse.1 (List.mem_of_find?_eq_some found)
  · cases resolved

theorem PolicyTable.resolve_of_resolve {α : Type} {table : PolicyTable α}
    {cluster : String} {name : Option String} {policy : α}
    (resolved : table.resolve cluster name = .ok policy)
    (other : String) : table.resolve other name = .ok policy := by
  simp only [PolicyTable.resolve] at resolved ⊢
  split at resolved
  · exact resolved
  · cases resolved

namespace Policies

/-- The rules that a configuration obeys when it is accepted, each with what it
leads to in the model. -/
structure Accepts (policies : Policies) (config : ClusterConfig) (model : ClusterModel) :
    Prop where
  settings : model.config = config
  named : Text.isBlankText config.id = false
  destinations : checkDestinations config = .ok ()
  activityTimeout : config.forwarding.activityTimeout ≠ 0
  loadBalancing :
    policies.loadBalancing.resolve config.id config.loadBalancing =
      .ok model.loadBalancing
  affinity : policies.resolveAffinity config = .ok model.affinity
  availability :
    policies.availability.resolve config.id config.healthCheck.availability =
      .ok model.availability
  active : policies.resolveActive config = .ok model.active
  passive : policies.resolvePassive config = .ok model.passive

theorem map_some_eq_ok {ε α : Type} {first : Except ε α} {value : α}
    (succeeded : (some <$> first) = .ok (some value)) : first = .ok value := by
  cases first with
  | error fault => cases succeeded
  | ok other =>
      cases succeeded
      rfl

theorem accepts_of_resolve {policies : Policies} {config : ClusterConfig}
    {model : ClusterModel} (accepted : policies.resolve config = .ok model) :
    policies.Accepts config model := by
  unfold resolve at accepted
  by_cases blank : Text.isBlankText config.id = true
  · simp only [if_pos blank] at accepted
    cases accepted
  simp only [if_neg blank] at accepted
  rcases bind_eq_ok.1 accepted with ⟨_, addressed, accepted⟩
  by_cases untimed : config.forwarding.activityTimeout = 0
  · simp only [if_pos untimed] at accepted
    cases accepted
  simp only [if_neg untimed] at accepted
  rcases bind_eq_ok.1 accepted with ⟨loadBalancing, balanced, accepted⟩
  rcases bind_eq_ok.1 accepted with ⟨affinity, bound, accepted⟩
  rcases bind_eq_ok.1 accepted with ⟨availability, selected, accepted⟩
  rcases bind_eq_ok.1 accepted with ⟨active, probed, accepted⟩
  rcases bind_eq_ok.1 accepted with ⟨passive, observed, accepted⟩
  cases accepted
  exact ⟨rfl, eq_false_of_ne_true blank, addressed, untimed, balanced, bound,
    selected, probed, observed⟩

theorem mem_active_of_resolveActive {policies : Policies} {config : ClusterConfig}
    {policy : ActivePolicy}
    (resolved : policies.resolveActive config = .ok (some policy)) :
    policy ∈ policies.active.entries := by
  simp only [resolveActive] at resolved
  split at resolved
  · cases resolved
  · split at resolved
    · cases resolved
    · split at resolved
      · cases resolved
      · exact PolicyTable.mem_of_resolve (map_some_eq_ok resolved)

private theorem mem_passive_of_resolvePassive {policies : Policies}
    {config : ClusterConfig} {policy : PassivePolicy}
    (resolved : policies.resolvePassive config = .ok (some policy)) :
    policy ∈ policies.passive.entries := by
  simp only [resolvePassive] at resolved
  split at resolved
  · cases resolved
  · exact PolicyTable.mem_of_resolve (map_some_eq_ok resolved)

theorem mem_affinity_of_resolveAffinity {policies : Policies} {config : ClusterConfig}
    {affinity : AffinityModel}
    (resolved : policies.resolveAffinity config = .ok (some affinity)) :
    affinity.policy ∈ policies.affinity.entries := by
  simp only [resolveAffinity] at resolved
  split at resolved
  · cases resolved
  · split at resolved
    · rcases bind_eq_ok.1 resolved with ⟨policy, found, resolved⟩
      rcases bind_eq_ok.1 resolved with ⟨failurePolicy, _, resolved⟩
      cases resolved
      exact PolicyTable.mem_of_resolve found
    · cases resolved

/-- What is known about the affinity of an accepted model: it is the configured one, it
is enabled, and its policies are those that the tables have for the configured names. -/
structure AffinitySettled (policies : Policies) (config : ClusterConfig)
    (affinity : AffinityModel) : Prop where
  settings : config.affinity = some affinity.config
  enabled : affinity.config.enabled = true
  keyName : Http.Header.isName affinity.config.keyName = true
  policy : policies.affinity.resolve config.id affinity.config.policy =
    .ok affinity.policy
  failurePolicy :
    policies.affinityFailure.resolve config.id affinity.config.failurePolicy =
      .ok affinity.failurePolicy

theorem settled_of_resolveAffinity {policies : Policies} {config : ClusterConfig}
    {affinity : AffinityModel}
    (resolved : policies.resolveAffinity config = .ok (some affinity)) :
    policies.AffinitySettled config affinity := by
  simp only [resolveAffinity] at resolved
  split at resolved
  · cases resolved
  · rename_i settings configured
    rcases Option.filter_eq_some_iff.1 configured with ⟨present, enabled⟩
    split at resolved
    · rename_i valid
      rcases bind_eq_ok.1 resolved with ⟨policy, found, resolved⟩
      rcases bind_eq_ok.1 resolved with ⟨failurePolicy, handling, resolved⟩
      cases resolved
      exact ⟨present, enabled, valid, found, handling⟩
    · cases resolved

theorem settled_of_bound {policies : Policies} {model : ClusterModel}
    (accepted : policies.resolve model.config = .ok model) {affinity : AffinityModel}
    (bound : model.affinity = some affinity) :
    policies.AffinitySettled model.config affinity :=
  settled_of_resolveAffinity (bound ▸ (accepts_of_resolve accepted).affinity)

theorem resolveAffinity_of_same {policies : Policies} {config other : ClusterConfig}
    {affinity : Option AffinityModel}
    (resolved : policies.resolveAffinity config = .ok affinity)
    (same : other.affinity = config.affinity) :
    policies.resolveAffinity other = .ok affinity := by
  simp only [resolveAffinity, same] at resolved ⊢
  split at resolved
  · exact resolved
  · split at resolved
    · rename_i valid
      rcases bind_eq_ok.1 resolved with ⟨policy, found, resolved⟩
      rcases bind_eq_ok.1 resolved with ⟨failurePolicy, handling, resolved⟩
      rw [if_pos valid, PolicyTable.resolve_of_resolve found,
        PolicyTable.resolve_of_resolve handling]
      exact resolved
    · cases resolved

theorem affinity_of_same {policies : Policies} {model other : ClusterModel}
    (accepted : policies.resolve model.config = .ok model)
    (otherAccepted : policies.resolve other.config = .ok other)
    (same : other.config.affinity = model.config.affinity) :
    other.affinity = model.affinity := by
  have resolved := resolveAffinity_of_same (accepts_of_resolve accepted).affinity same
  exact Except.ok.inj ((accepts_of_resolve otherAccepted).affinity.symm.trans resolved)

theorem availability_mem_builtin {source : RandomSource} {protector : Protector}
    {model : ClusterModel}
    (accepted : (builtin source protector).resolve model.config = .ok model) :
    model.availability ∈ AvailabilityPolicy.builtin :=
  PolicyTable.mem_of_resolve (accepts_of_resolve accepted).availability

theorem passive_mem_builtin {source : RandomSource} {protector : Protector}
    {model : ClusterModel}
    (accepted : (builtin source protector).resolve model.config = .ok model)
    (policy : PassivePolicy) (enabled : model.passive = some policy) :
    policy ∈ PassivePolicy.builtin := by
  have resolved := (accepts_of_resolve accepted).passive
  rw [enabled] at resolved
  exact mem_passive_of_resolvePassive resolved

end Policies

/-- What every accepted model obeys, whatever the tables hold. -/
structure ClusterModel.WellFormed (model : ClusterModel) : Prop where
  addresses : ∀ id config, (id, config) ∈ model.config.destinations.entries →
    Text.isBlankText config.address = false
  activityTimeout : 0 < model.config.forwarding.activityTimeout
  interval : model.config.healthCheck.active.enabled = true →
    0 < model.config.healthCheck.active.interval
  timeout : model.config.healthCheck.active.enabled = true →
    0 < model.config.healthCheck.active.timeout
  affinity : model.affinity.map AffinityModel.config =
    model.config.affinity.filter AffinityConfig.enabled
  active : model.active.isSome = model.config.healthCheck.active.enabled
  passive : model.passive.isSome = model.config.healthCheck.passive.enabled

namespace Policies

private theorem addressed_of_checkDestinations {config : ClusterConfig}
    (checked : checkDestinations config = .ok ()) {id : String}
    {destination : DestinationConfig}
    (member : (id, destination) ∈ config.destinations.entries) :
    Text.isBlankText destination.address = false := by
  unfold checkDestinations at checked
  split at checked
  · cases checked
  · rename_i missing
    exact eq_false_of_ne_true (List.find?_eq_none.1 missing (id, destination) member)

theorem affinity_of_resolveAffinity {policies : Policies} {config : ClusterConfig}
    {affinity : Option AffinityModel}
    (resolved : policies.resolveAffinity config = .ok affinity) :
    affinity.map AffinityModel.config =
      config.affinity.filter AffinityConfig.enabled := by
  simp only [resolveAffinity] at resolved
  split at resolved
  · rename_i disabled
    cases resolved
    exact disabled.symm
  · rename_i settings enabled
    split at resolved
    · rcases bind_eq_ok.1 resolved with ⟨policy, -, resolved⟩
      rcases bind_eq_ok.1 resolved with ⟨failurePolicy, -, resolved⟩
      cases resolved
      exact enabled.symm
    · cases resolved

theorem active_of_resolveActive {policies : Policies} {config : ClusterConfig}
    {policy : Option ActivePolicy}
    (resolved : policies.resolveActive config = .ok policy) :
    policy.isSome = config.healthCheck.active.enabled ∧
      (config.healthCheck.active.enabled = true →
        0 < config.healthCheck.active.interval ∧
          0 < config.healthCheck.active.timeout) := by
  simp only [resolveActive] at resolved
  split at resolved
  · rename_i disabled
    cases resolved
    simp_all
  · rename_i enabled
    split at resolved
    · cases resolved
    · rename_i interval
      split at resolved
      · cases resolved
      · rename_i timeout
        cases policy with
        | none =>
            cases found : policies.active.resolve config.id
              config.healthCheck.active.policy <;>
              rw [found] at resolved <;> cases resolved
        | some policy =>
            have enabled : config.healthCheck.active.enabled = true := by
              simpa using enabled
            exact ⟨enabled.symm, fun _ =>
              ⟨Nat.pos_of_ne_zero interval, Nat.pos_of_ne_zero timeout⟩⟩

theorem passive_of_resolvePassive {policies : Policies} {config : ClusterConfig}
    {policy : Option PassivePolicy}
    (resolved : policies.resolvePassive config = .ok policy) :
    policy.isSome = config.healthCheck.passive.enabled := by
  simp only [resolvePassive] at resolved
  split at resolved
  · rename_i disabled
    cases resolved
    simp_all
  · rename_i enabled
    cases policy with
    | none =>
        cases found : policies.passive.resolve config.id
          config.healthCheck.passive.policy <;>
          rw [found] at resolved <;> cases resolved
    | some policy =>
        have enabled : config.healthCheck.passive.enabled = true := by simpa using enabled
        exact enabled.symm

theorem wellFormed_of_resolve {policies : Policies} {model : ClusterModel}
    (accepted : policies.resolve model.config = .ok model) : model.WellFormed := by
  have rules := accepts_of_resolve accepted
  have active := active_of_resolveActive rules.active
  exact
    { addresses := fun _ _ member =>
      addressed_of_checkDestinations rules.destinations member
      activityTimeout := Nat.pos_of_ne_zero rules.activityTimeout
      interval := fun enabled => (active.2 enabled).1
      timeout := fun enabled => (active.2 enabled).2
      affinity := affinity_of_resolveAffinity rules.affinity
      active := active.1
      passive := passive_of_resolvePassive rules.passive }

end Policies

end Gateway
