import Gateway.Proofs.Probing.Origin
import Gateway.Proofs.Removal.Reach

namespace Gateway

/-! Removal is final. A cluster that was removed is at rest for good; what is configured
under its id afterwards is a new cluster, and nothing that was under way before reaches
it. The same holds for the records of destinations within one cluster. -/

namespace Scene

variable {policies : Policies} {former scene now : Scene} {ref : ClusterRef}

/-- A cluster that was removed is at rest: nothing is to be done for it, and nothing but
the report of an outcome changes what requests are routed by there. Whatever still works
on it leaves all other clusters alone, and what is to be done for them. -/
structure AtRest (scene : Scene) (ref : ClusterRef) : Prop where
  removed : scene.router.Removed ref
  silent : ∀ alarm ∈ scene.router.agenda, alarm.cluster ≠ ref
  idle : ∀ operation, ∀ work ∈ scene.workOf operation, work.alarm.cluster ≠ ref
  steady : ∀ operation, operation ≠ .check ref →
    (∀ lease outcome, scene.router.reported? operation = some (lease, outcome) →
      lease.cluster ≠ ref) →
    Router.SameStanding ref scene.router (scene.perform operation).value.router
  contained : ∀ operation, operation.reconfigures = false →
    (∀ site ∈ scene.sites operation, site = ref) →
    Router.Spared (· != ref) scene.router (scene.perform operation).value.router

private theorem atRest_of_removed {background : Bool}
    (sound : Router.Sound policies background scene.router)
    (attached : scene.router.Attached) (removed : scene.router.Removed ref) :
    scene.AtRest ref := by
  have silent := silent_of_removed removed sound attached
  have idle := idle_of_silent silent
  refine ⟨removed, silent, idle, fun operation unchecked unreported => ?_,
    fun operation quiet sole => ?_⟩
  · exact sameStanding_perform removed sound.known (idle operation) unchecked unreported
  · exact spared_perform quiet fun site there => by simp [sole site there]

/-- Nothing that was under way at a former moment reaches a part of the gateway: neither
the end of a lease, nor the report of an outcome on a record, nor an alarm of some
kinds. -/
structure Unreached {α : Type} (former now : Scene) (kinds : Wakeup → Bool)
    (part : Router → α) : Prop where
  leases : ∀ operation number outcome, (former.router.lease? number).isSome = true →
    now.router.ending? operation = some (number, outcome) →
    part (now.perform operation).value.router = part now.router
  reports : ∀ ref record outcome, former.router.hasRecord ref record = true →
    part (now.perform (.report ref record outcome)).value.router = part now.router
  alarms : ∀ operation, ∀ work ∈ now.workOf operation, work.alarm ∈ former.router.agenda →
    kinds work.alarm.wakeup = true → part work.after.router = part work.scene.router

/-- The end of a lease is a report, or nothing but the request that held it is
affected. -/
theorem unreached_of_reported {α : Type} {kinds : Wakeup → Bool} {part : Router → α}
    (blind : ∀ (router : Router) inFlight serial,
      part { router with inFlight, serial } = part router)
    (held : ∀ number lease, former.router.lease? number = some lease →
      former.router.hasRecord lease.cluster lease.record = true ∧
        ∀ holder, now.router.lease? number = some holder → holder = lease)
    (reported : ∀ operation lease outcome,
      now.router.reported? operation = some (lease, outcome) →
      former.router.hasRecord lease.cluster lease.record = true →
      part (now.perform operation).value.router = part now.router)
    (worked : ∀ work : Work, work.alarm ∈ former.router.agenda →
      kinds work.alarm.wakeup = true → part work.after.router = part work.scene.router) :
    Unreached former now kinds part where
  leases := by
    intro operation number outcome alive ending
    rcases Option.isSome_iff_exists.1 alive with ⟨lease, taken⟩
    rcases held number lease taken with ⟨there, kept⟩
    cases holder : now.router.lease? number with
    | some holder' =>
        have same := kept holder' holder
        subst same
        exact reported operation holder' outcome
          (Router.reported?_of_ending ending holder) there
    | none =>
        have nothing : (now.router.endLease number outcome).value = now.router := by
          rw [Router.endLease_of_ended holder, Traced.value_pure]
        rcases router_ending ending with
          ⟨-, same⟩ | ⟨position, request, serial, -, -, same⟩
        · rw [same, nothing]
        · rw [same, nothing]
          exact blind now.router _ serial
  reports := by
    intro ref record outcome there
    exact reported (.report ref record outcome) { cluster := ref, record } outcome
      rfl there
  alarms := fun operation work _ pending => worked work pending

section Later

variable (choosing : policies.Choosing) (background) (run later : List Operation)

include choosing

private theorem held_after {number : Nat} {lease : Lease}
    (taken : ((fresh policies background).after run).router.lease? number = some lease) :
    ((fresh policies background).after run).router.hasRecord lease.cluster
        lease.record = true ∧
      ∀ holder,
        ((fresh policies background).after (later ++ run)).router.lease? number =
          some holder → holder = lease :=
  ⟨(grounded_after choosing background run).leases number lease taken,
    (lease?_after choosing background taken later).2⟩

theorem unreached_cluster
    (absent : ((fresh policies background).after run).router.cluster? ref = none) :
    Unreached ((fresh policies background).after run)
      ((fresh policies background).after (later ++ run)) (fun _ => true)
      (fun router => router.cluster? ref) := by
  have sound := sound_after policies background run
  have attached := attached_after choosing background run
  refine unreached_of_reported (fun _ _ _ => rfl)
    (fun number lease => held_after choosing background run later) ?_ ?_
  · intro operation lease outcome reported there
    have elsewhere : (lease.cluster == ref) = false := by
      apply beq_false_of_ne
      rintro rfl
      rcases Router.cluster?_of_hasRecord there with ⟨cluster, present, -⟩
      rw [absent] at present
      cases present
    have spared : Router.Spared (· == ref) _ _ := spared_reported reported elsewhere
    exact spared.clusters ref (beq_self_eq_true ref)
  · intro work pending _
    have elsewhere : (work.alarm.cluster == ref) = false := by
      apply beq_false_of_ne
      rintro rfl
      have named := attached.registered sound.looped pending
      rcases sound.known.registered _ _ named with ⟨cluster, present, -⟩
      rw [absent] at present
      cases present
    have spared : Router.Spared (· == ref) _ _ := spared_wake work.scene elsewhere
    exact spared.clusters ref (beq_self_eq_true ref)

/-- A record that is not there yet is reached by nothing that is under way, though a loop
goes on and may probe it later. -/
theorem unreached_record {record : Nat}
    (absent : ((fresh policies background).after run).router.hasRecord ref record =
      false) :
    Unreached ((fresh policies background).after run)
      ((fresh policies background).after (later ++ run))
      (fun wakeup => !wakeup.startsTick)
      (fun router => router.destination? ref record) := by
  have grounded := grounded_after choosing background run
  refine unreached_of_reported (fun _ _ _ => rfl)
    (fun number lease => held_after choosing background run later) ?_ ?_
  · intro operation lease outcome reported there
    refine destination?_reported reported ?_
    rintro rfl
    rw [absent] at there
    cases there
  · intro work pending waiting
    refine destination?_wake work.scene (by simpa using waiting) ?_
    rintro rfl about
    have there := grounded.alarms work.alarm pending record about
    rw [absent] at there
    cases there

end Later

theorem renamed_perform (known : Router.Known policies scene.router)
    {operation : Operation} {before after : Cluster}
    (present : scene.router.cluster? ref = some before)
    (later : (scene.perform operation).value.router.cluster? ref = some after)
    {id : String} {candidate : Candidate}
    (found : after.destination? id = some candidate) :
    before.current.get? id = some candidate.record ∨
      scene.router.hasRecord ref candidate.record = false ∧
        candidate.destination.requests = 0 ∧ candidate.destination.health =
          .pristine := by
  rcases Option.bind_eq_some_iff.1 found with ⟨number, named, there⟩
  rcases Option.map_eq_some_iff.1 there with ⟨destination, stored, rfl⟩
  rcases grows_perform known operation ref before present with ⟨cluster, there, grows⟩
  rw [later, Option.some.injEq] at there
  subst there
  cases reconfigures : operation.reconfigures with
  | false =>
      have same : Router.SameOutline scene.router _ := sameOutline_perform reconfigures
      rcases same.cluster? later with ⟨former, there, alike⟩
      rw [present, Option.some.injEq] at there
      subst there
      rw [Cluster.current_of_outline alike] at named
      exact .inl named
  | true =>
      refine (grows.named id number named).imp_right fun new => ?_
      have nothing : before.records[number]? = none := List.getElem?_eq_none new
      have kept : ∀ {α : Type} {part : Cluster → α} {absent : α},
          Cluster.Lasting part absent → part after = part before := by
        intro α part absent lasting
        rw [part_perform lasting reconfigures later, present]
        rfl
      refine ⟨?_, ?_, ?_⟩
      · simpa only [Router.hasRecord, present, Option.any_some, decide_eq_false_iff_not,
          Nat.not_lt] using new
      · rw [← Destination.requestsAt_of_getElem? stored]
        refine (kept (Cluster.lasting_requestsOf number)).trans ?_
        rw [Cluster.requestsOf, Destination.requestsAt, nothing]
        rfl
      · rw [← Destination.healthAt_of_getElem? stored]
        refine (kept (Cluster.lasting_healthOf number)).trans ?_
        rw [Cluster.healthOf, Destination.healthAt, nothing]
        rfl

/-- Probes are sent on behalf of other clusters only, unless someone probes this one by
hand. -/
def Unprobed (scene : Scene) (ref : ClusterRef) : Prop :=
  ∀ operation, operation ≠ .check ref →
    ∀ event ∈ (scene.perform operation).events, event.isProbe = true →
      (∃ other, other ≠ ref ∧ operation = .check other) ∨
        ∃ work ∈ scene.workOf operation, work.alarm.cluster ≠ ref ∧
          event ∈ (work.scene.wake work.alarm).events

theorem AtRest.unprobed {source : RandomSource} {protector : Protector}
    (atRest : scene.AtRest ref)
    (known : Router.Known (.builtin source protector) scene.router)
    (owned : Router.Owned (.builtin source protector) scene.router) :
    scene.Unprobed ref := by
  intro operation unchecked event told probes
  rcases origin_of_probe known owned told probes with ⟨other, rfl⟩ | ⟨work, done, sent⟩
  · exact .inl ⟨other, fun same => unchecked (same ▸ rfl), rfl⟩
  · exact .inr ⟨work, done, atRest.idle operation work done, sent⟩

/-- Removal is final, and incarnations are isolated. Whenever a cluster was removed, or
left out of a snapshot, it is at rest from then on, whatever happens next: no probe of it
begins, no timer of it is pending, and only the report of an outcome there changes the
health of its records or its lists. If its id is configured again, that is a new cluster,
on which nothing was counted and whose records are as good as new. No lease that was alive
before, no report on a record that existed then and no alarm that was pending then ever
changes anything of it. Within one cluster the same holds for a destination: an id that
stands for another record than before stands for a new one. What was under way before
never changes that record, and at any time neither outcomes nor timers nor results of
probes of one record change another, nor set a timer for it. -/
theorem removal_final_after (policies : Policies) (choosing : policies.Choosing)
    (background : Bool) (run : List Operation) :
    let start := fresh policies background
    let scene := start.after run
    (∀ operation id ref, scene.router.registeredRef? id = some ref →
      operation.removes id →
      (scene.perform operation).value.router.Removed ref) ∧
    (∀ ref, scene.router.Removed ref → ∀ later,
      (start.after (later ++ run)).AtRest ref ∧
        ∀ source protector, policies = .builtin source protector →
          (start.after (later ++ run)).Unprobed ref) ∧
    (∀ operation id ref cluster, scene.router.registeredRef? id = none →
      (scene.perform operation).value.router.registered? id = some (ref, cluster) →
      scene.router.cluster? ref = none ∧ cluster.Fresh) ∧
    (∀ ref, scene.router.cluster? ref = none → ∀ later,
      Unreached scene (start.after (later ++ run)) (fun _ => true)
        (fun router => router.cluster? ref)) ∧
    (∀ operation ref before after, scene.router.cluster? ref = some before →
      (scene.perform operation).value.router.cluster? ref = some after →
      ∀ id candidate, after.destination? id = some candidate →
        before.current.get? id = some candidate.record ∨
          scene.router.hasRecord ref candidate.record = false ∧
            candidate.destination.requests = 0 ∧
              candidate.destination.health = .pristine) ∧
    (∀ ref record, scene.router.hasRecord ref record = false → ∀ later,
      Unreached scene (start.after (later ++ run)) (fun wakeup => !wakeup.startsTick)
        (fun router => router.destination? ref record)) ∧
    scene.Apart := by
  intro start scene
  have sound : ∀ run, Router.Sound policies background (start.after run).router :=
    sound_after policies background
  refine ⟨fun operation id ref named removes => ?_, fun ref removed later => ?_,
    fun operation id ref cluster unnamed found => ?_, fun ref absent later => ?_,
    fun operation ref before after present there id candidate found => ?_,
    fun ref record absent later => ?_, scene.apart⟩
  · exact removed_of_removes (sound run) named removes
  · have stillRemoved := removed_later removed later
    have atRest := atRest_of_removed (sound (later ++ run))
      (attached_after choosing background (later ++ run)) stillRemoved
    refine ⟨atRest, fun source protector builtin => ?_⟩
    subst builtin
    exact atRest.unprobed (sound (later ++ run)).known
      (owned_after choosing background (later ++ run))
  · exact fresh_perform (sound run).known unnamed found
  · exact unreached_cluster choosing background run later absent
  · exact renamed_perform (sound run).known present there found
  · exact unreached_record choosing background run later absent

/-- A request that is under way while its cluster is removed and configured again. -/
theorem removal_final_after_return :
    let removed :=
      sample.after [.remove "cluster", .acquire sampleRef 0, .configure sampleConfig]
    let returned := sample.after
      [.configure sampleConfig, .remove "cluster", .acquire sampleRef 0,
        .configure sampleConfig]
    let current : ClusterRef := { id := "cluster", incarnation := 1 }
    removed.AtRest sampleRef ∧ returned.AtRest sampleRef ∧
      (∃ cluster, returned.router.registered? "cluster" = some (current, cluster) ∧
        cluster.Fresh) ∧
      (returned.perform (.complete 0 .backendError)).value.router.cluster? current =
        returned.router.cluster? current := by
  intro removed returned current
  have named :
      (sample.after [.acquire sampleRef 0, .configure sampleConfig]).router.registeredRef?
        "cluster" = some sampleRef := by decide +kernel
  have unnamed : removed.router.registeredRef? "cluster" = none := by decide +kernel
  have again : (returned.router.registered? "cluster").map Prod.fst = some current := by
    decide +kernel
  have alive : (removed.router.lease? 0).isSome = true := by decide +kernel
  have ending :
      returned.router.ending? (.complete 0 .backendError) = some (0, .backendError) := by
    decide +kernel
  have choosing := Policies.choosing_builtin (.ofSequence [])
    (.encrypting (List.replicate Protector.keySize 0))
  have gone : removed.router.Removed sampleRef :=
    (removal_final_after _ choosing true [.acquire sampleRef 0,
      .configure sampleConfig]).1
      (.remove "cluster") "cluster" sampleRef named rfl
  rcases removal_final_after _ choosing true
    [.remove "cluster", .acquire sampleRef 0, .configure sampleConfig] with
    ⟨-, rests, renews, isolates, -⟩
  rcases Option.map_eq_some_iff.1 again with ⟨⟨ref, cluster⟩, found, same⟩
  have renewed : removed.router.cluster? ref = none ∧ cluster.Fresh :=
    renews (.configure sampleConfig) "cluster" ref cluster unnamed found
  subst same
  refine ⟨(rests _ gone []).1, (rests _ gone [.configure sampleConfig]).1,
    ⟨cluster, found, renewed.2⟩, ?_⟩
  exact (isolates _ renewed.1 [.configure sampleConfig]).leases
    (.complete 0 .backendError) 0 .backendError alive ending

end Scene

end Gateway
