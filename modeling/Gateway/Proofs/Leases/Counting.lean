import Gateway.Proofs.Router.Requests
import Mathlib

namespace Gateway

/-! Every live lease is counted once on its cluster and once on its record, however
the cluster is configured meanwhile, and even after it was removed. -/

/-! Counting on words, as on numbers: as long as the word does not wrap, and down to
zero at most. -/

private theorem toNat_add_if {count : UInt64} {live : Nat} (same : count.toNat = live)
    (more : Bool) (few : live + (if more then 1 else 0) < 2 ^ 64) :
    (count + if more then 1 else 0).toNat = live + if more then 1 else 0 := by
  cases more with
  | false => simpa using same
  | true =>
      rw [if_pos rfl, if_pos rfl, UInt64.toNat_add, same]
      exact Nat.mod_eq_of_lt few

private theorem toNat_decrementCount (count : UInt64) :
    (decrementCount count).toNat = count.toNat - 1 := by
  unfold decrementCount
  split
  · rename_i zero
    rw [zero]
    rfl
  · rename_i positive
    have bound : (1 : UInt64) ≤ count := by
      rw [UInt64.le_iff_toNat_le]
      have different : count.toNat ≠ 0 := fun zero => positive (UInt64.toNat_inj.1 zero)
      exact Nat.one_le_iff_ne_zero.2 different
    exact UInt64.toNat_sub_of_le count 1 bound

namespace Cluster

private theorem requestsOf_increment {cluster : Cluster} {record : Nat}
    (bound : record < cluster.records.length) (number : Nat) :
    (cluster.incrementRequests.modifyRecord record
        Destination.increment).requestsOf number =
      if number = record then cluster.requestsOf number + 1
      else cluster.requestsOf number := by
  simp only [requestsOf, Destination.requestsAt, modifyRecord, incrementRequests,
    List.getElem?_modify]
  by_cases same : number = record
  · subst same
    simp [bound, Destination.increment]
  · simp [same, Ne.symm same]

private theorem requestsOf_decrement (cluster : Cluster) (record number : Nat) :
    (cluster.modifyRecord record
        Destination.decrement).decrementRequests.requestsOf number =
      if number = record then decrementCount (cluster.requestsOf number)
      else cluster.requestsOf number := by
  simp only [requestsOf, Destination.requestsAt, modifyRecord, decrementRequests,
    List.getElem?_modify]
  by_cases same : number = record
  · subst same
    cases cluster.records[number]? with
    | none => simp [decrementCount]
    | some destination => simp [Destination.decrement]
  · simp [same, Ne.symm same]

end Cluster

namespace Router

variable {policies : Policies} {router next : Router}

/-! Two states of a gateway in which every number of requests is the same. -/

structure SameCounts (before after : Router) : Prop where
  cluster : ∀ ref, after.requestsOn ref = before.requestsOn ref
  record : ∀ ref record, after.requestsOf ref record = before.requestsOf ref record

theorem SameCounts.refl (router : Router) : SameCounts router router :=
  ⟨fun _ => rfl, fun _ _ => rfl⟩

theorem SameCounts.trans {before middle after : Router} (first : SameCounts before middle)
    (last : SameCounts middle after) : SameCounts before after where
  cluster := fun ref => (last.cluster ref).trans (first.cluster ref)
  record := fun ref record => (last.record ref record).trans (first.record ref record)

private theorem sameCounts_setCluster {ref : ClusterRef} {before after : Cluster}
    (present : router.cluster? ref = some before)
    (same : Cluster.SameRequests before after) :
    SameCounts router (router.setCluster ref after) where
  cluster := view_setCluster Cluster.requests 0 present same.requests
  record := fun other record =>
    view_setCluster (fun cluster => cluster.requestsOf record) 0 present
      (same.requestsOf record) other

private theorem sameCounts_mapCluster (router : Router) (ref : ClusterRef)
    {change : Cluster → Cluster}
    (same : ∀ cluster, Cluster.SameRequests cluster (change cluster)) :
    SameCounts router (router.mapCluster ref change) := by
  unfold mapCluster
  split
  · exact .refl router
  · rename_i cluster present
    exact sameCounts_setCluster present (same cluster)

private theorem Move.sameCounts (move : Move policies router next) :
    SameCounts router next := by
  cases move with
  | change present changed => exact sameCounts_setCluster present changed.sameRequests
  | @add model accepted =>
      have fresh := Cluster.sameRequests_applyModel (.ofModel model) model
      refine ⟨view_addCluster Cluster.requests 0 router fresh.requests,
        fun ref record => ?_⟩
      exact view_addCluster (fun cluster => cluster.requestsOf record) 0 router
        (fresh.requestsOf record) ref
  | @shutDown ref =>
      have closed : SameCounts router (router.close ref) :=
        sameCounts_mapCluster router ref fun _ => ⟨rfl, fun _ => rfl⟩
      exact ⟨closed.cluster, closed.record⟩
  | @reactivate position alarm exclusion =>
      have restored :=
        sameCounts_mapCluster (router.eraseAlarm position) alarm.cluster fun cluster =>
          (Cluster.onlyHealth_reactivate cluster exclusion).sameRequests
      exact ⟨restored.cluster, restored.record⟩
  | _ => exact ⟨fun _ => rfl, fun _ _ => rfl⟩

private theorem Moves.sameCounts (moves : Moves policies router next) :
    SameCounts router next := by
  induction moves with
  | refl => exact .refl router
  | tail _ move induction => exact induction.trans move.sameCounts

private theorem sameCounts_observe (router : Router) (ref : ClusterRef) (record : Nat)
    (outcome : Outcome) :
    SameCounts router (router.observe ref record outcome).value := by
  rcases (heard_observe router ref record outcome).cases with
    ⟨-, same⟩ | ⟨cluster, agenda, present, same⟩
  · rw [same]
    exact .refl router
  · rw [same]
    have heard := sameCounts_setCluster present
      (Cluster.onlyHealth_observe cluster router.now record outcome).sameRequests
    exact ⟨heard.cluster, heard.record⟩

/-! The live leases, all of them or those of a kind. -/

def liveLeases (router : Router) (kind : Lease → Bool) : Nat :=
  router.leases.countP (fun lease => lease.any kind)

def liveOn (router : Router) (ref : ClusterRef) : Nat :=
  router.liveLeases (fun lease => lease.cluster == ref)

def liveOf (router : Router) (ref : ClusterRef) (record : Nat) : Nat :=
  router.liveLeases (fun lease => lease == { cluster := ref, record })

def live (router : Router) : Nat :=
  router.liveLeases (fun _ => true)

private theorem liveLeases_le_live (router : Router) (kind : Lease → Bool) :
    router.liveLeases kind ≤ router.live := by
  apply List.countP_mono_left
  intro lease _ chosen
  cases lease with
  | none => cases chosen
  | some lease => rfl

theorem lease?_eq_some_iff (router : Router) (number : Nat) (lease : Lease) :
    router.lease? number = some lease ↔ router.leases[number]? = some (some lease) := by
  simp only [lease?, Option.join_eq_some_iff]

private theorem liveLeases_pos {number : Nat} {lease : Lease}
    (held : router.lease? number = some lease) {kind : Lease → Bool}
    (chosen : kind lease = true) : 0 < router.liveLeases kind := by
  apply List.countP_pos_iff.2
  exact ⟨some lease, List.mem_of_getElem? ((lease?_eq_some_iff _ _ _).1 held), chosen⟩

private theorem countP_append_lease (leases : List (Option Lease)) (lease : Lease)
    (kind : Lease → Bool) :
    (leases ++ [some lease]).countP (fun lease => lease.any kind) =
      leases.countP (fun lease => lease.any kind) + if kind lease then 1 else 0 := by
  rw [List.countP_append, List.countP_singleton, Option.any_some]

private theorem countP_end_lease {leases : List (Option Lease)} {number : Nat}
    {lease : Lease} (held : leases[number]? = some (some lease)) (kind : Lease → Bool) :
    (leases.set number none).countP (fun lease => lease.any kind) =
      leases.countP (fun lease => lease.any kind) - if kind lease then 1 else 0 := by
  rcases List.getElem?_eq_some_iff.1 held with ⟨bound, same⟩
  rw [List.countP_set bound, same]
  simp

/-- Every counter says how many leases are alive. -/
structure Counted (router : Router) : Prop where
  cluster : ∀ ref, (router.requestsOn ref).toNat = router.liveOn ref
  record : ∀ ref record, (router.requestsOf ref record).toNat = router.liveOf ref record

private theorem Counted.of_sameCounts (counted : router.Counted)
    (same : SameCounts router next) (leases : next.leases = router.leases) :
    next.Counted where
  cluster := by
    intro ref
    rw [same.cluster, counted.cluster, liveOn, liveOn, liveLeases, liveLeases, leases]
  record := by
    intro ref record
    rw [same.record, counted.record, liveOf, liveOf, liveLeases, liveLeases, leases]

theorem cluster?_of_hasRecord {ref : ClusterRef} {record : Nat}
    (there : router.hasRecord ref record = true) :
    ∃ cluster, router.cluster? ref = some cluster ∧ record < cluster.records.length := by
  simp only [hasRecord, Option.any_eq_true, decide_eq_true_eq] at there
  exact there

private theorem requestsOn_mapCluster {ref : ClusterRef} {cluster : Cluster}
    (present : router.cluster? ref = some cluster) (change : Cluster → Cluster)
    (other : ClusterRef) :
    (router.mapCluster ref change).requestsOn other =
      if other = ref then (change cluster).requests else router.requestsOn other := by
  rw [requestsOn, cluster?_mapCluster]
  split
  · rw [present]
    rfl
  · rfl

private theorem requestsOf_mapCluster {ref : ClusterRef} {cluster : Cluster}
    (present : router.cluster? ref = some cluster) (change : Cluster → Cluster)
    (other : ClusterRef) (record : Nat) :
    (router.mapCluster ref change).requestsOf other record =
      if other = ref then (change cluster).requestsOf record
      else router.requestsOf other record := by
  rw [requestsOf, cluster?_mapCluster]
  split
  · rw [present]
    rfl
  · rfl

/-! A new lease adds one to the counters of its cluster and of its record. -/

private theorem liveLeases_acquire (router : Router) (ref : ClusterRef) (record : Nat)
    (kind : Lease → Bool) :
    (router.acquire ref record).1.liveLeases kind =
      router.liveLeases kind + if kind { cluster := ref, record } then 1 else 0 := by
  rcases acquire_fields router ref record with ⟨leases, -⟩
  rw [liveLeases, leases, countP_append_lease]
  rfl

private theorem requestsOn_acquire {ref : ClusterRef} {cluster : Cluster}
    (present : router.cluster? ref = some cluster) (record : Nat) (other : ClusterRef) :
    (router.acquire ref record).1.requestsOn other =
      router.requestsOn other + if ref == other then 1 else 0 := by
  refine (requestsOn_mapCluster present _ other).trans ?_
  by_cases same : other = ref
  · subst same
    rw [if_pos rfl, requestsOn_of_cluster? present, if_pos (beq_self_eq_true other)]
    rfl
  · have different : (ref == other) = false := beq_false_of_ne (Ne.symm same)
    rw [if_neg same, different]
    exact (UInt64.add_zero _).symm

theorem requestsOf_acquire {ref : ClusterRef} {record : Nat}
    (there : router.hasRecord ref record = true) (other : ClusterRef) (number : Nat) :
    (router.acquire ref record).1.requestsOf other number =
      router.requestsOf other number +
        if ({ cluster := ref, record } : Lease) ==
          { cluster := other, record := number } then 1
        else 0 := by
  rcases cluster?_of_hasRecord there with ⟨cluster, present, bound⟩
  refine (requestsOf_mapCluster present _ other number).trans ?_
  by_cases same : other = ref ∧ number = record
  · rcases same with ⟨rfl, rfl⟩
    rw [if_pos rfl, Cluster.requestsOf_increment bound, if_pos rfl,
      requestsOf_of_cluster? present, if_pos (beq_self_eq_true _)]
  · have different : (({ cluster := ref, record } : Lease) ==
        { cluster := other, record := number }) = false := by
      apply beq_false_of_ne
      intro equal
      cases equal
      exact same ⟨rfl, rfl⟩
    rw [different, if_neg Bool.false_ne_true, UInt64.add_zero]
    split
    · rename_i here
      subst here
      rw [Cluster.requestsOf_increment bound, if_neg fun equal => same ⟨rfl, equal⟩,
        requestsOf_of_cluster? present]
    · rfl

theorem Counted.acquire (counted : router.Counted) {ref : ClusterRef} {record : Nat}
    (there : router.hasRecord ref record = true)
    (few : (router.acquire ref record).1.live < 2 ^ 64) :
    (router.acquire ref record).1.Counted := by
  rcases cluster?_of_hasRecord there with ⟨cluster, present, -⟩
  have limit := fun kind => Nat.lt_of_le_of_lt (liveLeases_le_live _ kind) few
  simp only [liveLeases_acquire] at limit
  constructor
  · intro other
    rw [requestsOn_acquire present, liveOn, liveLeases_acquire]
    exact toNat_add_if (counted.cluster other) _ (limit _)
  · intro other number
    rw [requestsOf_acquire there, liveOf, liveLeases_acquire]
    exact toNat_add_if (counted.record other number) _ (limit _)

/-! The end of a lease takes one from each of them. -/

private theorem requestsOn_release (router : Router) (lease : Lease)
    (other : ClusterRef) :
    (router.release lease).requestsOn other =
      if lease.cluster == other then decrementCount (router.requestsOn other)
      else router.requestsOn other := by
  cases present : router.cluster? lease.cluster with
  | none =>
      have same : router.release lease = router := by
        simp only [release, mapCluster, present]
      rw [same]
      split
      · rename_i here
        rw [← eq_of_beq here, requestsOn, present]
        rfl
      · rfl
  | some cluster =>
      refine (requestsOn_mapCluster present _ other).trans ?_
      by_cases same : other = lease.cluster
      · subst same
        rw [if_pos rfl, if_pos (beq_self_eq_true _), requestsOn_of_cluster? present]
        rfl
      · have different : (lease.cluster == other) = false :=
          beq_false_of_ne (Ne.symm same)
        rw [if_neg same, different, if_neg Bool.false_ne_true]

private theorem requestsOf_release (router : Router) (lease : Lease) (other : ClusterRef)
    (number : Nat) :
    (router.release lease).requestsOf other number =
      if lease == { cluster := other, record := number } then
        decrementCount (router.requestsOf other number)
      else router.requestsOf other number := by
  cases present : router.cluster? lease.cluster with
  | none =>
      have same : router.release lease = router := by
        simp only [release, mapCluster, present]
      rw [same]
      split
      · rename_i here
        rw [eq_of_beq here] at present
        rw [requestsOf, present]
        rfl
      · rfl
  | some cluster =>
      refine (requestsOf_mapCluster present _ other number).trans ?_
      by_cases same : other = lease.cluster
      · subst same
        rw [if_pos rfl, Cluster.requestsOf_decrement, requestsOf_of_cluster? present]
        by_cases here : number = lease.record
        · subst here
          rw [if_pos rfl, if_pos (beq_self_eq_true _)]
        · have different : (lease == { cluster := lease.cluster, record := number }) =
              false :=
            beq_false_of_ne fun equal => here (congrArg Lease.record equal).symm
          rw [if_neg here, different, if_neg Bool.false_ne_true]
      · have different : (lease == { cluster := other, record := number }) = false :=
          beq_false_of_ne fun equal => same (congrArg Lease.cluster equal).symm
        rw [if_neg same, different, if_neg Bool.false_ne_true]

theorem leases_endLease (router : Router) (number : Nat) (outcome : Outcome) :
    (router.endLease number outcome).value.leases = router.leases.set number none := by
  cases held : router.lease? number with
  | some lease => rw [value_endLease held]
  | none =>
      rw [endLease_of_ended held, Traced.value_pure]
      apply List.ext_getElem?
      intro position
      rw [List.getElem?_set]
      split
      · rename_i here
        subst here
        split
        · rename_i bound
          simp only [lease?, List.getElem?_eq_getElem bound, Option.join_some] at held
          rw [List.getElem?_eq_getElem bound, held]
        · rename_i beyond
          exact List.getElem?_eq_none (by omega)
      · rfl

theorem inFlight_endLease (router : Router) (number : Nat) (outcome : Outcome) :
    (router.endLease number outcome).value.inFlight = router.inFlight := by
  cases held : router.lease? number with
  | some lease =>
      rw [value_endLease held]
      have heard := frame_observe router lease.cluster lease.record outcome
      exact (Frame.mapCluster _ _ _).inFlight.trans heard.inFlight
  | none => rw [endLease_of_ended held, Traced.value_pure]

theorem Counted.endLease (counted : router.Counted) (number : Nat) (outcome : Outcome) :
    (router.endLease number outcome).value.Counted := by
  cases held : router.lease? number with
  | none =>
      rw [endLease_of_ended held]
      exact counted
  | some lease =>
      have heard := sameCounts_observe router lease.cluster lease.record outcome
      have fewer := countP_end_lease ((lease?_eq_some_iff _ _ _).1 held)
      rw [value_endLease held]
      constructor
      · intro other
        refine (congrArg UInt64.toNat (requestsOn_release _ lease other)).trans ?_
        rw [heard.cluster, liveOn, liveLeases, fewer]
        have before := counted.cluster other
        rw [liveOn, liveLeases] at before
        split <;> simp [toNat_decrementCount, before]
      · intro other record
        refine (congrArg UInt64.toNat (requestsOf_release _ lease other record)).trans ?_
        rw [heard.record, liveOf, liveLeases, fewer]
        have before := counted.record other record
        rw [liveOf, liveLeases] at before
        split <;> simp [toNat_decrementCount, before]

theorem Counted.performed (counted : router.Counted)
    (performed : Performed policies router next) (few : next.live < 2 ^ 64) :
    next.Counted := by
  cases performed with
  | begun begun =>
      cases begun with
      | moved moves => exact counted.of_sameCounts moves.sameCounts moves.frame.leases
      | acquired there => exact counted.acquire there few
      | started moves request there =>
          have before := counted.of_sameCounts moves.sameCounts moves.frame.leases
          have acquired := before.acquire there few
          exact ⟨acquired.cluster, acquired.record⟩
  | reported ref record outcome =>
      exact counted.of_sameCounts (sameCounts_observe router ref record outcome)
        (frame_observe router ref record outcome).leases
  | @ended number _ outcome => exact counted.endLease number outcome
  | @finished _ request _ outcome =>
      have ended := counted.endLease request.lease outcome
      exact ⟨ended.cluster, ended.record⟩

theorem counted_fresh (policies : Policies) (background : Bool) :
    Counted { policies, background } :=
  ⟨fun _ => rfl, fun _ _ => rfl⟩

/-! What the counters come to: a live lease keeps both of its counters above zero, and a
cluster counts as many requests as its records together. -/

theorem Counted.held (counted : router.Counted) {number : Nat} {lease : Lease}
    (held : router.lease? number = some lease) :
    ∃ cluster destination, router.cluster? lease.cluster = some cluster ∧
      cluster.records[lease.record]? = some destination ∧
      cluster.requests ≠ 0 ∧ destination.requests ≠ 0 := by
  have onCluster : router.requestsOn lease.cluster ≠ 0 := by
    intro zero
    have total := counted.cluster lease.cluster
    rw [zero] at total
    have positive : 0 < router.liveOn lease.cluster :=
      liveLeases_pos held (beq_self_eq_true _)
    rw [← total] at positive
    exact Nat.lt_irrefl 0 positive
  have onRecord : router.requestsOf lease.cluster lease.record ≠ 0 := by
    intro zero
    have total := counted.record lease.cluster lease.record
    rw [zero] at total
    have positive : 0 < router.liveOf lease.cluster lease.record :=
      liveLeases_pos held (beq_self_eq_true _)
    rw [← total] at positive
    exact Nat.lt_irrefl 0 positive
  cases present : router.cluster? lease.cluster with
  | none => exact absurd (by rw [requestsOn, present]; rfl) onCluster
  | some cluster =>
      rw [requestsOn_of_cluster? present] at onCluster
      rw [requestsOf_of_cluster? present] at onRecord
      cases stored : cluster.records[lease.record]? with
      | none =>
          exact absurd (by rw [Cluster.requestsOf, Destination.requestsAt, stored]; rfl)
            onRecord
      | some destination =>
          rw [Cluster.requestsOf, Destination.requestsAt_of_getElem? stored] at onRecord
          exact ⟨cluster, destination, rfl, stored, onCluster, onRecord⟩

theorem sum_of_record (ref : ClusterRef) (lease : Lease) (bound : Nat) :
    ((List.range bound).map (fun record =>
        if lease == { cluster := ref, record } then 1 else 0)).sum =
      if lease.cluster == ref ∧ lease.record < bound then 1 else 0 := by
  induction bound with
  | zero => simp
  | succ bound induction =>
      rw [List.range_succ, List.map_append, List.sum_append, induction,
        List.map_singleton, List.sum_singleton]
      rcases lease with ⟨cluster, record⟩
      simp only [beq_iff_eq, Lease.mk.injEq]
      by_cases on : cluster = ref
      · rcases Nat.lt_trichotomy record bound with before | here | beyond
        · rw [if_pos ⟨on, before⟩, if_neg (by omega), if_pos ⟨on, by omega⟩]
        · rw [if_neg (by omega), if_pos ⟨on, here⟩, if_pos ⟨on, by omega⟩]
        · rw [if_neg (by omega), if_neg (by omega), if_neg (by omega)]
      · rw [if_neg fun both => on both.1, if_neg fun both => on both.1,
          if_neg fun both => on both.1]

private theorem countP_eq_sum (ref : ClusterRef) (bound : Nat)
    (leases : List (Option Lease))
    (there : ∀ lease, some lease ∈ leases → lease.cluster = ref → lease.record < bound) :
    leases.countP (fun lease => lease.any (fun lease => lease.cluster == ref)) =
      ((List.range bound).map (fun record =>
        leases.countP (fun lease => lease.any (fun lease =>
          lease == { cluster := ref, record })))).sum := by
  induction leases with
  | nil => simp
  | cons head rest induction =>
      have later := induction fun lease member =>
          there lease (List.mem_cons_of_mem _ member)
      simp only [List.countP_cons, List.sum_map_add, ← later]
      congr 1
      cases head with
      | none => simp
      | some lease =>
          simp only [Option.any_some]
          rw [sum_of_record]
          by_cases on : lease.cluster = ref
          · have bounded := there lease (List.mem_cons_self ..) on
            simp [on, bounded]
          · simp [on]

theorem Counted.sum (counted : router.Counted) {ref : ClusterRef} {cluster : Cluster}
    (present : router.cluster? ref = some cluster) :
    cluster.requests.toNat =
      (cluster.records.map (fun destination => destination.requests.toNat)).sum := by
  have each : cluster.records.map (fun destination => destination.requests.toNat) =
      (List.range cluster.records.length).map (fun record =>
        router.liveOf ref record) := by
    apply List.ext_getElem
    · simp
    · intro record bound _
      have there : record < cluster.records.length := by simpa using bound
      have stored := List.getElem?_eq_getElem there
      have total := counted.record ref record
      rw [requestsOf_of_cluster? present, Cluster.requestsOf,
        Destination.requestsAt_of_getElem? stored] at total
      simpa using total
  have total := counted.cluster ref
  rw [requestsOn_of_cluster? present] at total
  rw [each, total]
  apply countP_eq_sum
  intro lease member on
  rcases List.getElem?_of_mem member with ⟨number, stored⟩
  rcases counted.held ((lease?_eq_some_iff _ _ _).2 stored) with
    ⟨other, destination, alsoPresent, there, -⟩
  rw [on, present, Option.some.injEq] at alsoPresent
  rw [alsoPresent]
  exact (List.getElem?_eq_some_iff.1 there).1

end Router

end Gateway
