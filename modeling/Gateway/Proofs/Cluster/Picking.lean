import Gateway.Cluster.Picking
import Gateway.Proofs.Resolution

namespace Gateway

/-! Where a picked destination comes from: affinity only narrows the candidates
down, and a load balancer takes one of them. -/

namespace LoadBalancer

private theorem lighter_eq_or (left right : Candidate) :
    lighter left right = left ∨ lighter left right = right := by
  unfold lighter
  split
  · exact .inl rfl
  · exact .inr rfl

private theorem foldl_lighter_mem (leader : Candidate) (others : List Candidate) :
    others.foldl lighter leader ∈ leader :: others := by
  induction others generalizing leader with
  | nil => exact List.mem_singleton_self leader
  | cons other others induction =>
      rw [List.foldl_cons]
      rcases List.mem_cons.1 (induction (lighter leader other)) with kept | later
      · rw [kept]
        rcases lighter_eq_or leader other with same | beaten
        · rw [same]
          exact List.mem_cons_self
        · rw [beaten]
          exact List.mem_cons_of_mem _ List.mem_cons_self
      · exact List.mem_cons_of_mem _ (List.mem_cons_of_mem _ later)

private theorem mem_of_lightest {candidates : List Candidate} {chosen : Candidate}
    (found : lightest candidates = some chosen) : chosen ∈ candidates := by
  cases candidates with
  | nil => cases found
  | cons candidate rest =>
      rw [lightest, Option.some.injEq] at found
      rw [← found]
      exact foldl_lighter_mem candidate rest

theorem mem_of_pick {source : RandomSource} {balancer : LoadBalancer}
    (known : balancer ∈ builtin source) {turn : Turn} {candidates : List Candidate}
    {chosen : Candidate} (picked : (balancer.pick turn candidates).1 = some chosen) :
    chosen ∈ candidates := by
  simp only [builtin, List.mem_cons, List.not_mem_nil, or_false] at known
  rcases known with rfl | rfl | rfl | rfl | rfl
  · exact List.mem_of_head? picked
  · simp only [random] at picked
    split at picked
    · cases picked
    · exact List.mem_of_getElem? picked
  · simp only [roundRobin] at picked
    split at picked
    · cases picked
    · exact List.mem_of_getElem? picked
  · simp only [powerOfTwoChoices] at picked
    split at picked
    · cases picked
    · rw [Option.some.injEq] at picked
      rw [picked]
      exact List.mem_singleton_self _
    · split at picked
      · rename_i left right leftFound rightFound
        rw [Option.some.injEq] at picked
        rw [← picked]
        rcases lighter_eq_or left right with same | same
        · rw [same]
          exact List.mem_of_getElem? leftFound
        · rw [same]
          exact List.mem_of_getElem? rightFound
      · cases picked
  · exact mem_of_lightest picked

end LoadBalancer

namespace AffinityPolicy

private theorem candidates_subset_of_findKey (cluster key : String)
    (candidates : List Candidate) :
    (findKey cluster key candidates).value.candidates ⊆ candidates := by
  unfold findKey
  split
  · exact List.nil_subset _
  · split
    · rename_i candidate found
      intro other member
      rw [List.mem_singleton.1 member]
      exact List.mem_of_find?_eq_some found
    · exact List.nil_subset _

private theorem candidates_subset_of_find {protector : Protector}
    {policy : AffinityPolicy} (known : policy ∈ builtin protector) {cluster : String}
    {config : AffinityConfig} {request : Http.Request} {candidates : List Candidate}
    {result : AffinityResult}
    (found : (policy.find cluster config request candidates).value = .ok result) :
    result.candidates ⊆ candidates := by
  rcases List.mem_map.1 known with ⟨carrier, -, rfl⟩
  simp only [ofCarrier, findWith] at found
  split at found
  · cases found
  · split at found
    · rw [Traced.value_pure, Except.ok.injEq] at found
      rw [← found]
      exact List.Subset.refl _
    · split at found
      · rename_i key _
        rw [Traced.value_map, Except.ok.injEq] at found
        rw [← found]
        exact candidates_subset_of_findKey _ _ _
      · rw [Traced.value_bind, Traced.value_pure, Except.ok.injEq] at found
        rw [← found]
        exact List.nil_subset _

end AffinityPolicy

namespace Policies

/-- Load balancers and affinity policies choose among the candidates they are given. -/
structure Choosing (policies : Policies) : Prop where
  balancing : ∀ balancer ∈ policies.loadBalancing.entries,
    ∀ turn candidates chosen, (balancer.pick turn candidates).1 = some chosen →
      chosen ∈ candidates
  affinity : ∀ policy ∈ policies.affinity.entries,
    ∀ cluster config request candidates result,
      (policy.find cluster config request candidates).value = .ok result →
        result.candidates ⊆ candidates

theorem choosing_builtin (source : RandomSource) (protector : Protector) :
    (builtin source protector).Choosing where
  balancing := fun _ known _ _ _ => LoadBalancer.mem_of_pick known
  affinity := fun _ known _ _ _ _ _ => AffinityPolicy.candidates_subset_of_find known

end Policies

namespace Cluster

variable {policies : Policies} {cluster : Cluster} {model : ClusterModel}

private theorem candidates_subset_of_select (choosing : policies.Choosing)
    (accepted : policies.resolve model.config = .ok model) {request : Http.Request}
    {selection : Selection}
    (selected : (cluster.select model request).value = .ok selection) :
    selection.candidates ⊆ cluster.candidates cluster.available := by
  simp only [select] at selected
  split at selected
  · rw [Traced.value_pure, Except.ok.injEq] at selected
    rw [← selected]
    exact List.Subset.refl _
  · rename_i affinity bound
    rw [Traced.value_bind] at selected
    split at selected
    · cases selected
    · rename_i result found
      split at selected
      · rw [Traced.value_pure, Except.ok.injEq] at selected
        rw [← selected]
        have resolved := (Policies.accepts_of_resolve accepted).affinity
        rw [bound] at resolved
        exact choosing.affinity _ (Policies.mem_affinity_of_resolveAffinity resolved)
          _ _ _ _ _ found
      · simp only [afterFailure, Traced.value_bind] at selected
        split at selected
        · cases selected
        · cases selected
        · rw [Traced.value_pure, Except.ok.injEq] at selected
          rw [← selected]
          exact List.Subset.refl _

private theorem mem_of_balance (choosing : policies.Choosing)
    (accepted : policies.resolve model.config = .ok model) {turn : Turn}
    {candidates : List Candidate} {chosen : Candidate}
    (balanced : (balance model.loadBalancing turn candidates).1 = some chosen) :
    chosen ∈ candidates := by
  unfold balance at balanced
  split at balanced
  · cases balanced
  · rw [Option.some.injEq] at balanced
    rw [balanced]
    exact List.mem_singleton_self _
  · have known :=
      PolicyTable.mem_of_resolve (Policies.accepts_of_resolve accepted).loadBalancing
    exact choosing.balancing _ known _ _ _ balanced

theorem mem_available_of_pick (choosing : policies.Choosing)
    (accepted : policies.resolve model.config = .ok model) {request : Http.Request}
    {turn : Turn} {picked : Picked}
    (result : (cluster.pick model request turn).value.1 = .ok picked) :
    picked.candidate ∈ cluster.candidates cluster.available := by
  unfold pick at result
  rw [Traced.value_bind] at result
  split at result
  · cases result
  · rename_i selection selected
    simp only at result
    split at result
    · rename_i chosen balanced
      rw [Traced.value_bind, Traced.value_pure, Except.ok.injEq] at result
      rw [← result]
      exact candidates_subset_of_select choosing accepted selected
        (mem_of_balance choosing accepted balanced)
    · cases result

end Cluster

end Gateway
