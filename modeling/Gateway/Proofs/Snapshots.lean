import Gateway.Proofs.Cluster.Publication
import Gateway.Proofs.Router.Requests

namespace Gateway

/-! The published lists of every cluster are what would be published now, in every
state that a gateway can reach. Five kinds of work write what the lists depend on:
configuration, reports, timers, probes and the counting of requests. -/

namespace Cluster

variable {source : RandomSource} {protector : Protector} {before after : Cluster}

theorem Coherent.change (coherent : before.Coherent)
    (accepted : (Policies.builtin source protector).resolve before.model.config =
      .ok before.model)
      (change : before.Change (Policies.builtin source protector) after) :
      after.Coherent := by
  cases change with
  | configured resolved =>
      exact coherent_applyModel coherent.names
        (Policies.availability_mem_builtin resolved)
  | probed known results =>
      rcases List.mem_singleton.1 known with rfl
      exact coherent.settleProbes (Policies.availability_mem_builtin accepted) results
  | turned => exact ⟨⟨coherent.keys, coherent.record⟩, ⟨coherent.all, coherent.available⟩⟩
  | looped => exact ⟨⟨coherent.keys, coherent.record⟩, ⟨coherent.all, coherent.available⟩⟩

private theorem coherent_added (model : ClusterModel)
    (accepted : (Policies.builtin source protector).resolve model.config = .ok model) :
    (Router.applyModel (.ofModel model) model).value.Coherent := by
  refine coherent_applyModel ?_ (Policies.availability_mem_builtin accepted)
  intro id number named
  cases named

theorem Coherent.shutDown (coherent : before.Coherent) :
    Coherent { before with shutDown := true } :=
  ⟨⟨coherent.keys, coherent.record⟩, ⟨coherent.all, coherent.available⟩⟩

theorem Coherent.increment (coherent : before.Coherent) (record : Nat) :
    (before.incrementRequests.modifyRecord record Destination.increment).Coherent := by
  have counted : before.incrementRequests.Coherent :=
    ⟨⟨coherent.keys, coherent.record⟩, ⟨coherent.all, coherent.available⟩⟩
  exact counted.modifyRecord record (fun _ => rfl) (fun _ => rfl) (fun _ => rfl)

theorem Coherent.decrement (coherent : before.Coherent) (record : Nat) :
    (before.modifyRecord record Destination.decrement).decrementRequests.Coherent := by
  have modified : (before.modifyRecord record Destination.decrement).Coherent :=
    coherent.modifyRecord record (fun _ => rfl) (fun _ => rfl) (fun _ => rfl)
  exact ⟨⟨modified.keys, modified.record⟩, ⟨modified.all, modified.available⟩⟩

end Cluster

namespace Router

variable {source : RandomSource} {protector : Protector} {router next : Router}

/-- Every cluster there is, or ever was, is coherent. -/
def Coherent (router : Router) : Prop :=
  ∀ ref cluster, router.cluster? ref = some cluster → cluster.Coherent

theorem Coherent.setCluster (coherent : router.Coherent) {ref : ClusterRef}
    {before after : Cluster} (present : router.cluster? ref = some before)
    (changed : after.Coherent) : (router.setCluster ref after).Coherent := by
  intro other cluster there
  rw [cluster?_setCluster present] at there
  split at there
  · rw [Option.some.injEq] at there
    rw [← there]
    exact changed
  · exact coherent other cluster there

theorem Coherent.mapCluster (coherent : router.Coherent) (ref : ClusterRef)
    {change : Cluster → Cluster}
    (changed : ∀ cluster, router.cluster? ref = some cluster → cluster.Coherent →
      (change cluster).Coherent) : (router.mapCluster ref change).Coherent := by
  unfold Router.mapCluster
  split
  · exact coherent
  · rename_i cluster present
    exact coherent.setCluster present
      (changed cluster present (coherent ref cluster present))

theorem Coherent.move (coherent : router.Coherent)
    (known : Known (Policies.builtin source protector) router)
    (move : Move (Policies.builtin source protector) router next) : next.Coherent := by
  cases move with
  | change present changed =>
      exact coherent.setCluster present
        ((coherent _ _ present).change (known.models _ _ present) changed)
  | add accepted =>
      intro ref cluster there
      rw [cluster?_addCluster] at there
      split at there
      · rw [Option.some.injEq] at there
        rw [← there]
        exact Cluster.coherent_added _ accepted
      · exact coherent ref cluster there
  | shutDown => exact coherent.mapCluster _ fun _ _ before => before.shutDown
  | @reactivate position alarm exclusion =>
      have erased : (router.eraseAlarm position).Coherent := coherent
      refine erased.mapCluster _ fun cluster present before => ?_
      have accepted := known.models _ _ present
      exact before.reactivate (Policies.availability_mem_builtin accepted) exclusion
  | _ => exact coherent

theorem Coherent.moves (coherent : router.Coherent)
    (known : Known (Policies.builtin source protector) router)
    (moves : Moves (Policies.builtin source protector) router next) : next.Coherent := by
  induction moves with
  | refl => exact coherent
  | tail earlier move induction => exact induction.move (known.moves earlier) move

theorem Coherent.observe (coherent : router.Coherent)
    (known : Known (Policies.builtin source protector) router) (ref : ClusterRef)
    (record : Nat) (outcome : Outcome) :
    (router.observe ref record outcome).value.Coherent := by
  rcases (heard_observe router ref record outcome).cases with
    ⟨-, same⟩ | ⟨cluster, agenda, present, same⟩
  · rw [same]
    exact coherent
  · rw [same]
    have accepted := known.models ref cluster present
    exact coherent.setCluster present
      ((coherent ref cluster present).observe (Policies.availability_mem_builtin accepted)
        (Policies.passive_mem_builtin accepted) _ _ _)

theorem Coherent.acquire (coherent : router.Coherent) (ref : ClusterRef) (record : Nat) :
    (router.acquire ref record).1.Coherent :=
  coherent.mapCluster ref fun _ _ before => before.increment record

theorem Coherent.endLease (coherent : router.Coherent)
    (known : Known (Policies.builtin source protector) router) (number : Nat)
    (outcome : Outcome) :
    (router.endLease number outcome).value.Coherent := by
  unfold Router.endLease
  split
  · exact coherent
  · rename_i lease _
    exact (coherent.observe known lease.cluster lease.record outcome).mapCluster
      lease.cluster
      fun _ _ before => before.decrement lease.record

theorem Coherent.performed (coherent : router.Coherent)
    (known : Known (Policies.builtin source protector) router)
    (performed : Performed (Policies.builtin source protector) router next) :
    next.Coherent := by
  cases performed with
  | begun begun =>
      cases begun with
      | moved moves => exact coherent.moves known moves
      | acquired => exact coherent.acquire _ _
      | started moves request => exact (coherent.moves known moves).acquire _ _
  | reported => exact coherent.observe known _ _ _
  | ended => exact coherent.endLease known _ _
  | finished waiting outcome => exact coherent.endLease known _ outcome

end Router

theorem Scene.coherent_after (source : RandomSource) (protector : Protector)
    (background : Bool) (run : List Operation) :
    ((fresh (.builtin source protector) background).after run).router.Coherent := by
  have choosing := Policies.choosing_builtin source protector
  induction run with
  | nil =>
      intro ref cluster present
      rw [after, fresh, Router.cluster?_fresh] at present
      cases present
  | cons operation earlier induction =>
      have known := known_after choosing background earlier
      exact induction.performed known (performed known choosing operation)

theorem Scene.publish_after (source : RandomSource) (protector : Protector)
    (background : Bool) (run : List Operation) {ref : ClusterRef} {cluster : Cluster}
    (present :
      ((fresh (.builtin source protector) background).after run).router.cluster? ref =
        some cluster) :
    cluster.publish.value = cluster := by
  have choosing := Policies.choosing_builtin source protector
  have accepted := (known_after choosing background run).models ref cluster present
  have coherent := coherent_after source protector background run ref cluster present
  exact coherent.publish_eq (Policies.availability_mem_builtin accepted)

namespace Cluster

private theorem map_id_candidates (cluster : Cluster) (entries : List (String × Nat))
    (named : ∀ entry ∈ entries, ∃ destination,
      cluster.records[entry.2]? = some destination ∧ destination.id = entry.1) :
    (cluster.candidates (entries.map Prod.snd)).map Candidate.id =
      entries.map Prod.fst := by
  induction entries with
  | nil => rfl
  | cons entry rest induction =>
      rcases named entry (List.mem_cons_self ..) with ⟨destination, stored, same⟩
      have found :
          cluster.candidate? entry.2 = some { record := entry.2, destination } := by
        simp [candidate?, stored]
      simp only [candidates, List.map_cons, List.filterMap_cons, found]
      exact congr (congrArg List.cons same)
        (induction fun other member => named other (List.mem_cons_of_mem _ member))

theorem Coherent.listed {cluster : Cluster} (coherent : cluster.Coherent)
    {candidate : Candidate} (member : candidate ∈ cluster.candidates cluster.all) :
    cluster.current.get? candidate.id = some candidate.record ∧
      cluster.model.config.destinations.get? candidate.id =
        some candidate.destination.config := by
  rcases (mem_candidates_iff _ _ _).1 member with ⟨there, stored⟩
  rw [coherent.all] at there
  rcases (Keyed.mem_values_iff _ _).1 there with ⟨id, named⟩
  rcases coherent.record id _ named with ⟨destination, alsoStored, same, configured⟩
  rw [stored, Option.some.injEq] at alsoStored
  subst alsoStored same
  exact ⟨named, configured⟩

theorem Coherent.entries {cluster : Cluster} (coherent : cluster.Coherent) :
    (cluster.candidates cluster.all).map
        (fun candidate => (candidate.id, candidate.destination.config)) =
      cluster.model.config.destinations.entries := by
  apply Keyed.eq_entries_of_keys
  · have ids := map_id_candidates cluster cluster.current.entries fun entry member =>
      coherent.names entry.1 entry.2 ((Keyed.get?_eq_some_iff _ _ _).2 member)
    rw [List.map_map, coherent.all, ← coherent.keys]
    exact ids
  · intro entry member
    rcases List.mem_map.1 member with ⟨candidate, published, rfl⟩
    exact (coherent.listed published).2

private theorem Coherent.map_record {cluster : Cluster} (coherent : cluster.Coherent) :
    (cluster.candidates cluster.all).map Candidate.record = cluster.all := by
  apply map_record_candidates
  intro number member
  rw [coherent.all] at member
  exact coherent.names.lt_length member

private theorem candidates_filter (cluster : Cluster) (numbers : List Nat) :
    cluster.candidates (numbers.filter cluster.admits) =
      (cluster.candidates numbers).filter (fun candidate =>
        cluster.model.config.healthCheck.admits candidate.destination.health) := by
  induction numbers with
  | nil => rfl
  | cons number rest induction =>
      have step : ∀ numbers, cluster.candidates (number :: numbers) =
          (cluster.candidate? number).toList ++ cluster.candidates numbers :=
            fun numbers => by
        simp only [candidates, List.filterMap_cons]
        cases cluster.candidate? number <;> rfl
      rw [step, List.filter_append, ← induction, List.filter_cons]
      cases stored : cluster.records[number]? with
      | none =>
          have missing : cluster.candidate? number = none := by simp [candidate?, stored]
          split
          · rw [step, missing]
            rfl
          · rw [missing]
            rfl
      | some destination =>
          have found :
              cluster.candidate? number = some { record := number, destination } := by
            simp [candidate?, stored]
          have same : cluster.admits number =
              cluster.model.config.healthCheck.admits destination.health := by
            rw [admits, healthOf_of_getElem? stored]
          by_cases admitted : cluster.admits number = true
          · rw [if_pos admitted, step, found]
            rw [same] at admitted
            simp [admitted]
          · rw [if_neg admitted, found]
            rw [same] at admitted
            simp [admitted]

private theorem Coherent.candidates_available {cluster : Cluster}
    (coherent : cluster.Coherent) :
    let all := cluster.candidates cluster.all
    let admitted := all.filter (fun candidate =>
      cluster.model.config.healthCheck.admits candidate.destination.health)
    cluster.candidates cluster.available =
      if cluster.model.availability.name = AvailabilityPolicy.healthyOrPanic.name ∧
        admitted = [] then
        all
      else admitted := by
  intro all admitted
  have filtered : admitted = cluster.candidates (cluster.all.filter cluster.admits) :=
    (candidates_filter cluster cluster.all).symm
  have empty : admitted = [] ↔ cluster.all.filter cluster.admits = [] := by
    have records : admitted.map Candidate.record = cluster.all.filter cluster.admits := by
      rw [filtered]
      apply map_record_candidates
      intro number member
      have published := (List.mem_filter.1 member).1
      rw [coherent.all] at published
      exact coherent.names.lt_length published
    rw [← records, List.map_eq_nil_iff]
  rw [coherent.available, selected, ← coherent.all]
  simp only [empty]
  split
  · rfl
  · exact filtered.symm

end Cluster

namespace Scene

/-- In every reachable state the lists of every cluster are those that would be
published now: all records of the configuration, and those of them that the
availability policy admits. So whatever model a request is routed by, it is routed
to a configured destination, and under the default policy to an admitted one. -/
theorem snapshot_current_after (source : RandomSource) (protector : Protector)
    (background : Bool) (run : List Operation) (ref : ClusterRef) (cluster : Cluster)
    (present : Router.cluster?
      ((fresh (.builtin source protector) background).after run).router ref =
        some cluster) :
    let all := cluster.candidates cluster.all
    let admits := fun candidate : Candidate =>
      cluster.model.config.healthCheck.admits candidate.destination.health
    cluster.publish.value = cluster ∧
      cluster.all = cluster.current.values ∧
      all.map Candidate.record = cluster.all ∧
      all.map (fun candidate => (candidate.id, candidate.destination.config)) =
        cluster.model.config.destinations.entries ∧
      all.Pairwise (fun earlier later => earlier.id < later.id) ∧
      cluster.candidates cluster.available =
        (if cluster.model.availability.name = AvailabilityPolicy.healthyOrPanic.name ∧
            all.filter admits = [] then
          all
        else all.filter admits) ∧
      ∀ (model : ClusterModel) (request : Http.Request) (turn : Turn) (picked : Picked),
        (Policies.builtin source protector).resolve model.config = .ok model →
        (cluster.pick model request turn).value.1 = .ok picked →
          picked.candidate ∈ all ∧
            cluster.model.config.destinations.get? picked.candidate.id =
              some picked.candidate.destination.config ∧
            (cluster.model.availability.name = AvailabilityPolicy.healthyAndUnknown.name →
              admits picked.candidate = true) := by
  intro all admits
  have choosing := Policies.choosing_builtin source protector
  have coherent := coherent_after source protector background run ref cluster present
  have published := publish_after source protector background run present
  have available := coherent.candidates_available
  refine ⟨published, coherent.all, coherent.map_record, coherent.entries, ?_,
    available, ?_⟩
  · have ascending := cluster.model.config.destinations.ascending
    rw [← coherent.entries, List.pairwise_map] at ascending
    exact ascending
  · intro model request turn picked resolved chosen
    have member := Cluster.mem_available_of_pick choosing resolved chosen
    rw [available] at member
    have published : picked.candidate ∈ all := by
      split at member
      · exact member
      · exact (List.mem_filter.1 member).1
    refine ⟨published, (coherent.listed published).2, fun regular => ?_⟩
    have calm : ¬ AvailabilityPolicy.healthyAndUnknown.name =
        AvailabilityPolicy.healthyOrPanic.name := by decide
    rw [regular, if_neg fun panics => calm panics.1] at member
    exact (List.mem_filter.1 member).2

/-- After its first failure the first destination is not available any more. -/
theorem snapshot_current_after_failure :
    ∃ cluster, Router.cluster? (sample.after
        [.report sampleRef 0 .backendError, .configure sampleConfig]).router sampleRef =
          some cluster ∧
      cluster.publish.value = cluster ∧ cluster.all = [0, 1] ∧
        cluster.available = [1] := by
  have lists : (Router.cluster? (sample.after
      [.report sampleRef 0 .backendError, .configure sampleConfig]).router sampleRef).map
        (fun cluster => (cluster.all, cluster.available)) = some ([0, 1], [1]) := by
    decide +kernel
  rcases Option.map_eq_some_iff.1 lists with ⟨cluster, present, same⟩
  have current := snapshot_current_after _ _ _ _ sampleRef cluster present
  exact ⟨cluster, present, current.1, congrArg Prod.fst same, congrArg Prod.snd same⟩

end Scene

end Gateway
