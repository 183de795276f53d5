import Gateway.Proofs.Leases.Counting

namespace Gateway

/-! Every lease that ends makes one report, to the passive policy of its cluster at
that moment. What else the end of a lease does is seen by nobody but the operator
and the client. -/

/-- Whether an event reaches neither a destination nor an observer. -/
def Event.isInternal : Event → Bool
  | .notice _ | .issue _ => true
  | .forward .. | .probe .. | .report .. => false

namespace Effect

variable {α β : Type}

def Internal (effect : Effect α) : Prop :=
  ∀ event ∈ effect.events, event.isInternal = true

theorem internal_pure (value : α) : Internal (pure value : Effect α) := by
  intro event member
  cases member

theorem internal_tell (notice : Notice) : Internal (tell notice) := by
  intro event member
  rw [List.mem_singleton.1 member]
  rfl

theorem internal_tellOf (cluster : String) (matter : ClusterNotice) :
    Internal (tellOf cluster matter) :=
  internal_tell _

theorem internal_bind {first : Effect α} {next : α → Effect β} (before : first.Internal)
    (after : (next first.value).Internal) : (first >>= next).Internal := by
  intro event member
  rcases List.mem_append.1 member with early | late
  · exact before event early
  · exact after event late

end Effect

open Effect

theorem AvailabilityPolicy.internal_select {policy : AvailabilityPolicy}
    (known : policy ∈ builtin) (config : ClusterConfig) (all : List Candidate) :
    (policy.select config all).Internal := by
  simp only [builtin, List.mem_cons, List.not_mem_nil, or_false] at known
  rcases known with rfl | rfl
  · exact internal_pure _
  · simp only [healthyOrPanic]
    split
    · exact internal_bind (internal_tellOf _ _) (internal_pure _)
    · exact internal_pure _

namespace Cluster

variable {cluster : Cluster}

theorem internal_publish
    (known : cluster.model.availability ∈ AvailabilityPolicy.builtin) :
    cluster.publish.Internal :=
  internal_bind (AvailabilityPolicy.internal_select known _ _) (internal_pure _)

theorem internal_announcePassive (cluster : Cluster)
    (known : cluster.model.availability ∈ AvailabilityPolicy.builtin)
    (record : Nat) (destination : Destination) (health : DestinationHealth) :
    (cluster.announcePassive record destination health).Internal := by
  refine internal_bind (internal_publish known) ?_
  split
  · exact internal_bind (internal_tellOf _ _) (internal_pure _)
  · exact internal_bind (internal_tellOf _ _) (internal_pure _)

end Cluster

namespace Cluster

variable {cluster : Cluster}

private theorem events_observe {policy : PassivePolicy} {record : Nat}
    {destination : Destination} (heard : cluster.model.passive = some policy)
    (stored : cluster.records[record]? = some destination)
    (known : cluster.model.availability ∈ AvailabilityPolicy.builtin) (now : Nat)
    (outcome : Outcome) :
    ∃ rest, (cluster.observe now record outcome).events =
        (policy.observe cluster.model.config now destination outcome).events ++ rest ∧
      ∀ event ∈ rest, event.isInternal = true := by
  simp only [observe, heard, stored]
  refine ⟨_, rfl, ?_⟩
  dsimp only
  split
  · exact internal_pure _
  · exact internal_announcePassive (cluster.setHealth record _) known record destination _

end Cluster

namespace Router

variable {policies : Policies} {router : Router}

/-- One report of an outcome on a record: the policy in force hears it once, and the
record has the health that the policy says; without a policy nothing happens. No
other record is touched. -/
def Reports (router : Router) (lease : Lease) (outcome : Outcome)
    (result : Effect Router) :
    Prop :=
  ∃ cluster destination, router.cluster? lease.cluster = some cluster ∧
    cluster.records[lease.record]? = some destination ∧
    match cluster.model.passive with
    | none =>
        result.Internal ∧
          ∀ ref record, result.value.healthOf ref record = router.healthOf ref record
    | some policy =>
        let report := policy.observe cluster.model.config router.now destination outcome
        (∃ rest, result.events = report.events ++ rest ∧
            ∀ event ∈ rest, event.isInternal = true) ∧
          ∀ ref record, result.value.healthOf ref record =
            if ref = lease.cluster ∧ record = lease.record then
              destination.health.judged report.value
            else router.healthOf ref record

theorem Reports.bind {lease : Lease} {outcome : Outcome} {first : Effect Router}
    (reports : router.Reports lease outcome first) {next : Router → Effect Router}
    (internal : (next first.value).Internal)
    (health : ∀ ref record,
      (next first.value).value.healthOf ref record = first.value.healthOf ref record) :
    router.Reports lease outcome (first >>= next) := by
  rcases reports with ⟨cluster, destination, present, stored, reported⟩
  refine ⟨cluster, destination, present, stored, ?_⟩
  cases heard : cluster.model.passive with
  | none =>
      simp only [heard] at reported ⊢
      exact ⟨internal_bind reported.1 internal,
        fun ref record => (health ref record).trans (reported.2 ref record)⟩
  | some policy =>
      simp only [heard] at reported ⊢
      rcases reported with ⟨⟨rest, events, silent⟩, judged⟩
      refine ⟨⟨rest ++ (next first.value).events, ?_, ?_⟩, ?_⟩
      · rw [Traced.events_bind, events, List.append_assoc]
      · intro event member
        rcases List.mem_append.1 member with early | late
        · exact silent event early
        · exact internal event late
      · exact fun ref record => (health ref record).trans (judged ref record)

theorem internal_scheduleReactivation (router : Router) (ref : ClusterRef)
    (exclusion : Exclusion) : (router.scheduleReactivation ref exclusion).Internal := by
  unfold scheduleReactivation
  split
  · exact internal_pure _
  · split
    · split <;> exact internal_pure _
    · split
      · exact internal_pure _
      · exact internal_bind (internal_tellOf _ _) (internal_pure _)

private theorem events_observe {ref : ClusterRef} {cluster : Cluster}
    (present : router.cluster? ref = some cluster) (record : Nat) (outcome : Outcome) :
    ∃ rest, (router.observe ref record outcome).events =
        (cluster.observe router.now record outcome).events ++ rest ∧
      ∀ event ∈ rest, event.isInternal = true := by
  simp only [observe, withCluster, present, Traced.events_bind, Traced.events_pure,
    List.append_nil, Traced.value_bind, Traced.value_pure]
  split
  · exact ⟨_, rfl, internal_pure _⟩
  · exact ⟨_, rfl, internal_scheduleReactivation _ _ _⟩

private theorem reports_observe (lease : Lease) {cluster : Cluster}
    {destination : Destination} (present : router.cluster? lease.cluster = some cluster)
    (stored : cluster.records[lease.record]? = some destination)
    (known : cluster.model.availability ∈ AvailabilityPolicy.builtin)
    (outcome : Outcome) :
    router.Reports lease outcome (router.observe lease.cluster lease.record outcome) := by
  rcases events_observe present lease.record outcome with ⟨rest, events, silent⟩
  have health := healthOf_observe present lease.record outcome
  refine ⟨cluster, destination, present, stored, ?_⟩
  cases heard : cluster.model.passive with
  | none =>
      have nothing :
          cluster.observe router.now lease.record outcome = pure (cluster, none) := by
        simp only [Cluster.observe, heard]
      rw [nothing] at events health
      refine ⟨?_, fun ref record => ?_⟩
      · rw [Internal, events]
        exact silent
      · rw [health ref record]
        split
        · rename_i same
          rw [same, healthOf_of_cluster? present]
          rfl
        · rfl
  | some policy =>
      rcases Cluster.events_observe heard stored known router.now outcome with
        ⟨more, reported, alsoSilent⟩
      refine ⟨⟨more ++ rest, ?_, ?_⟩, fun ref record => ?_⟩
      · rw [events, reported, List.append_assoc]
      · intro event member
        rcases List.mem_append.1 member with early | late
        · exact alsoSilent event early
        · exact silent event late
      · rw [health ref record, Cluster.healthOf_observe heard stored]
        by_cases same : ref = lease.cluster
        · subst same
          rw [if_pos rfl, healthOf_of_cluster? present]
          simp only [true_and]
        · rw [if_neg same, if_neg fun both => same both.1]

theorem reports_endLease {number : Nat} {lease : Lease}
    (held : router.lease? number = some lease) {cluster : Cluster}
    {destination : Destination} (present : router.cluster? lease.cluster = some cluster)
    (stored : cluster.records[lease.record]? = some destination)
    (known : cluster.model.availability ∈ AvailabilityPolicy.builtin)
    (outcome : Outcome) :
    router.Reports lease outcome (router.endLease number outcome) := by
  simp only [endLease, held]
  refine (reports_observe lease present stored known outcome).bind (internal_pure _) ?_
  exact (sameHealth_release _ lease).health

end Router

end Gateway
